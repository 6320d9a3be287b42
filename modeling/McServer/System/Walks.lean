import McServer.System
import McServer.Library.Watch

set_option autoImplicit false

namespace McServer.System

open Domain Store Agent ControlPlane Interleaving

-- Nothing at the provider, nothing on the local machine, and nothing that decides about a compute.
def isPlain : Op → Bool
  | .provider _ => false
  | .machine _ => false
  | .db (.insertCompute _ _ _ _ _ _) => false
  | .db (.recordProcessId _ _ _) => false
  | .db (.terminateCompute _ _ _ _) => false
  | _ => true

def creates : ProviderOp → Bool
  | .createInstance _ => true
  | _ => false

def isRead : ProviderOp → Bool
  | .createInstance _ | .deleteInstance _ => false
  | _ => true

def settles : LocalOp → Bool
  | .insertChild _ _ => true
  | .storeRuntimeState _ _ => true
  | .spawnAgent _ _ => true
  | .removeStateDirectory _ => true
  | _ => false

def isLook : LocalOp → Bool
  | .createStateDirectory _ => false
  | op => !settles op

def begins (compute : ComputeInstanceId) : LocalOp → Bool
  | .createStateDirectory other | .spawnAgent other _ | .storeRuntimeState other _
  | .insertChild other _ => other == compute
  | _ => false

structure Lenient {S : Type} (watch : Watch Op Choice S) (exec : (op : Op) → Choice → S → op.Res × S)
    (held : S → Prop) : Prop where
  plain : ∀ op, isPlain op = true → watch.Permits exec held op
  asks : ∀ op, creates op = false → watch.Permits exec held (.provider op)
  allots : ∀ id owner provider token enrollment now,
    watch.Permits exec held (.db (.insertCompute id owner provider token enrollment now))

section Walks

variable {S E F A B : Type} {watch : Watch Op Choice S} {exec : (op : Op) → Choice → S → op.Res × S}
variable {held : S → Prop}

theorem modest_done (value : A) : watch.Modest exec held (.done value : Prog Op Op.Res A) :=
  fun _ holds => holds

theorem modest_fail (error : E) : watch.Modest exec held (Try.fail error : Flow E A) := fun _ holds => holds

theorem modest_ofExcept (result : Except E A) : watch.Modest exec held (Try.ofExcept result : Flow E A) :=
  fun _ holds => holds

theorem modest_then {program : Flow E A} {next : A → Flow E B} (first : watch.Modest exec held program)
    (second : ∀ value, watch.Modest exec held (next value)) : watch.Modest exec held (Try.bind program next) := by
  refine first.bind fun result => ?_
  cases result with
  | ok value => exact second value
  | error error => exact modest_fail error

theorem modest_ite {condition : Prop} [Decidable condition] {first second : Prog Op Op.Res A}
    (yes : watch.Modest exec held first) (no : watch.Modest exec held second) :
    watch.Modest exec held (if condition then first else second) := by
  by_cases holds : condition
  · rwa [if_pos holds]
  · rwa [if_neg holds]

theorem modest_failIf {condition : Prop} [Decidable condition] (error : E) :
    watch.Modest exec held (Try.failIf condition error : Flow E Unit) :=
  modest_ite (modest_fail error) (modest_done _)

theorem modest_raising {into : F → E} {program : Prog Op Op.Res (Except F A)}
    (first : watch.Modest exec held program) : watch.Modest exec held (Try.raising into program) :=
  first.bind fun _ => modest_done _

theorem modest_lift {program : Prog Op Op.Res A} (first : watch.Modest exec held program) :
    watch.Modest exec held (Try.lift program : Flow E A) :=
  first.bind fun _ => modest_done _

section Steps

variable (calm : ∀ op, isPlain op = true → watch.Permits exec held op)
include calm

theorem modest_db (into : RepositoryError → E) {op : DbOp} (plain : isPlain (.db op) = true) :
    watch.Modest exec held (db into op) :=
  modest_raising (Watch.Modest.perform (calm (.db op) plain))

theorem modest_clock (into : TimestampError → E) : watch.Modest exec held (clock into) :=
  modest_raising (Watch.Modest.perform (calm .clock rfl))

theorem modest_newUuid : watch.Modest exec held (newUuid : Flow E Uuid) :=
  modest_lift (Watch.Modest.perform (calm .newUuid rfl))

theorem modest_link (op : LinkOp) : watch.Modest exec held (link op : Flow E op.Value) :=
  modest_lift (Watch.Modest.perform (calm (.link op) rfl))

theorem newConnectionToken_modest : watch.Modest exec held (newConnectionToken : Flow E String) :=
  modest_then (modest_newUuid calm) fun _ => modest_then (modest_newUuid calm) fun _ => modest_done _

theorem call_modest (compute : ComputeInstanceId) (command : Command) :
    watch.Modest exec held (call compute command) := by
  refine modest_then (Watch.Modest.perform (calm (.link (.send compute command)) rfl)) fun (tag : Nat) => ?_
  exact Watch.Modest.perform (calm (.link (.await compute { tag, command })) rfl)

theorem requestNodeShutdown_modest (compute : ComputeInstanceId) :
    watch.Modest exec held (AkamaiManager.requestNodeShutdown compute : Flow E Unit) := by
  refine modest_then (modest_link calm _) fun (connected : Bool) => ?_
  refine modest_ite (modest_lift ?_) (modest_done _)
  exact (call_modest calm compute .shutdown).bind fun _ => modest_done _

theorem modest_ask {A : Type} (compute : ComputeInstanceId) (command : Command)
    (expect : CommandResult → Except AgentCallError A) :
    watch.Modest exec held (ControlPlane.request compute command expect) :=
  modest_raising (modest_then (call_modest calm compute command) fun _ => modest_ofExcept _)

end Steps

section Worker

variable (lenient : Lenient watch exec held)
include lenient

theorem createForInstance_modest (into : RepositoryError → E) (id : ServerInstanceId)
    (provider : ComputeProvider) (token : String) (enrollment : Option String)
    (now : UnixTimestampMillis) :
    watch.Modest exec held (createForInstance into id provider token enrollment now) := by
  refine modest_then (modest_newUuid lenient.plain) fun uuid => ?_
  refine modest_then (modest_raising (Watch.Modest.perform (lenient.allots _ _ _ _ _ _)))
    fun (inserted : Bool) => ?_
  exact modest_ite (modest_db lenient.plain _ rfl) (modest_done _)

section Reads

variable (reads : ∀ op, isRead op = true → watch.Permits exec held (.provider op))
variable (files : ∀ path maximum, watch.Permits exec held (.readBounded path maximum))

omit lenient

section Provider

include reads

theorem modest_read {op : ProviderOp} (read : isRead op = true) :
    watch.Modest exec held (AkamaiClient.request op) :=
  modest_raising (Watch.Modest.perform (reads op read))

theorem listFrom_modest (filter : InstanceFilter) (keeps : ProviderInstance → Bool) (remaining : Nat)
    (found : List ProviderInstance) : watch.Modest exec held (AkamaiClient.listFrom filter keeps remaining found) := by
  induction remaining generalizing found with
  | zero => exact modest_then (modest_read reads rfl) fun (_ : ListInstancesResponse) => modest_done _
  | succ remaining ih =>
    refine modest_then (modest_read reads rfl) fun (_ : ListInstancesResponse) => ?_
    exact modest_ite (modest_done _) (ih _)

theorem findInstanceByLabel_modest (label : String) :
    watch.Modest exec held (AkamaiClient.findInstanceByLabel label) := by
  refine modest_then (listFrom_modest reads _ _ _ _) fun found => ?_
  match found with
  | [] => exact modest_done _
  | [_] => exact modest_done _
  | _ :: _ :: _ => exact modest_fail _

theorem verifyBootstrapCompatibility_modest (image region : String) :
    watch.Modest exec held (AkamaiClient.verifyBootstrapCompatibility image region) := by
  refine modest_then (modest_read reads rfl) fun (_ : ProviderImage) => ?_
  refine modest_then (modest_failIf _) fun _ => modest_then (modest_failIf _) fun _ => ?_
  refine modest_then (modest_failIf _) fun _ => modest_then (modest_failIf _) fun _ => ?_
  refine modest_then (modest_read reads rfl) fun (_ : ProviderRegion) => ?_
  exact modest_then (modest_failIf _) fun _ => modest_failIf _

theorem verifyInstanceType_modest (typeId : String) :
    watch.Modest exec held (AkamaiClient.verifyInstanceType typeId) :=
  modest_then (modest_read reads rfl) fun (_ : String) => modest_failIf _

theorem verifyFirewall_modest (firewallId : UInt64) :
    watch.Modest exec held (AkamaiClient.verifyFirewall firewallId) :=
  modest_then (modest_read reads rfl) fun (_ : ProviderFirewall) =>
    modest_then (modest_failIf _) fun _ => modest_failIf _

theorem verifyProviderConfiguration_modest (provider : ProviderInstance) (spec : AkamaiSpec) :
    watch.Modest exec held (AkamaiManager.verifyProviderConfiguration provider spec) := by
  refine modest_then (modest_ofExcept _) fun _ => ?_
  refine modest_then (modest_read reads rfl) fun (firewalls : List ProviderFirewall) => ?_
  cases firewalls.find? fun value => value.id = spec.firewallId with
  | none => exact modest_fail _
  | some firewall => exact modest_failIf _

end Provider

include files

theorem readBoundedFile_modest (path : String) (maximum : Nat) :
    watch.Modest exec held (readBoundedFile path maximum) :=
  Watch.Modest.perform (files path maximum)

theorem readAuthorizedKeys_modest (path : String) : watch.Modest exec held (readAuthorizedKeys path) :=
  modest_then (readBoundedFile_modest files _ _) fun _ =>
    modest_then (modest_failIf _) fun _ => modest_then (modest_failIf _) fun _ => modest_done _

theorem buildBootstrap_modest (remote : RemoteAgentConfig) (scope : String) (found : ServerInstance)
    (compute : ComputeInstance) : watch.Modest exec held (buildBootstrap remote scope found compute) := by
  refine modest_then (readAuthorizedKeys_modest files _) fun _ => ?_
  refine modest_then (readBoundedFile_modest files _ _) fun _ => modest_then (modest_failIf _) fun _ => ?_
  cases compute.enrollmentToken with
  | none => exact modest_fail _
  | some token => exact modest_done _

end Reads

section Provider

theorem modest_request {op : ProviderOp} (old : creates op = false) :
    watch.Modest exec held (AkamaiClient.request op) :=
  modest_raising (Watch.Modest.perform (lenient.asks op old))

theorem Lenient.reads (op : ProviderOp) (read : isRead op = true) : watch.Permits exec held (.provider op) :=
  lenient.asks op (by cases op <;> first | rfl | cases read)

theorem Lenient.files (path : String) (maximum : Nat) : watch.Permits exec held (.readBounded path maximum) :=
  lenient.plain (.readBounded path maximum) rfl

variable {manager : AkamaiManager}

theorem createInstance_modest
    (creating : ∀ request, watch.Permits exec held (.provider (.createInstance request)))
    (label : String) (spec : AkamaiSpec) (found : ServerInstance) (compute : ComputeInstance) :
    watch.Modest exec held (manager.createInstance label spec found compute) := by
  refine modest_then (modest_ofExcept _) fun _ => ?_
  refine modest_then (verifyBootstrapCompatibility_modest lenient.reads _ _) fun _ => ?_
  refine modest_then (verifyInstanceType_modest lenient.reads _) fun _ => ?_
  refine modest_then (verifyFirewall_modest lenient.reads _) fun _ => ?_
  refine modest_then (listFrom_modest lenient.reads _ _ _ _) fun _ => modest_then (modest_failIf _) fun _ => ?_
  refine modest_then (modest_raising (buildBootstrap_modest lenient.files _ _ _ _)) fun _ => ?_
  refine modest_then (modest_raising (Watch.Modest.perform (creating _))) fun (_ : ProviderInstance) => ?_
  exact modest_then (verifyProviderConfiguration_modest lenient.reads _ _) fun _ => modest_done _

variable (rents : ∀ label spec found compute,
  watch.Modest exec held (manager.createInstance label spec found compute))

include rents in
theorem findOrCreateInstance_modest (label : String) (spec : AkamaiSpec) (found : ServerInstance)
    (compute : ComputeInstance) (allowCreate : Bool) :
    watch.Modest exec held (manager.findOrCreateInstance label spec found compute allowCreate) := by
  refine modest_then (findInstanceByLabel_modest lenient.reads label) fun existing => ?_
  cases existing with
  | some existing =>
    refine modest_then (modest_failIf _) fun _ => ?_
    exact modest_then (verifyProviderConfiguration_modest lenient.reads _ _) fun _ => modest_done _
  | none => exact modest_ite (modest_fail _) (rents label spec found compute)

theorem obtainCompute_modest (found : ServerInstance) (now : UnixTimestampMillis) :
    watch.Modest exec held (manager.obtainCompute found now) := by
  refine modest_then (modest_db lenient.plain _ rfl) fun (existing : Option ComputeInstance) => ?_
  cases existing with
  | some compute => exact modest_ite (modest_done _) (modest_fail _)
  | none =>
    refine modest_then (modest_ofExcept _) fun _ => ?_
    refine modest_then (newConnectionToken_modest lenient.plain) fun _ => ?_
    refine modest_then (newConnectionToken_modest lenient.plain) fun _ => ?_
    refine modest_then (createForInstance_modest lenient _ _ _ _ _ _) fun created => ?_
    cases created with
    | some compute => exact modest_done _
    | none => exact modest_fail _

include rents in
theorem obtainProvider_modest (spec : AkamaiSpec) (found : ServerInstance) (compute : ComputeInstance) :
    watch.Modest exec held (manager.obtainProvider spec found compute) := by
  unfold AkamaiManager.obtainProvider
  cases compute.providerInstanceId with
  | none => exact findOrCreateInstance_modest lenient rents _ _ _ _ _
  | some recorded =>
    dsimp only
    cases Text.parseU64 recorded with
    | none => exact modest_fail _
    | some providerId =>
      refine modest_then (modest_request lenient rfl) fun (current : Option ProviderInstance) => ?_
      cases current with
      | some provider =>
        exact modest_ite (modest_then (verifyProviderConfiguration_modest lenient.reads _ _) fun _ => modest_done _)
          (modest_fail _)
      | none => exact findOrCreateInstance_modest lenient rents _ _ _ _ _

theorem recordProvider_modest (compute : ComputeInstance) (provider : ProviderInstance) :
    watch.Modest exec held (AkamaiManager.recordProvider compute provider) := by
  refine modest_ite (modest_done _) ?_
  refine modest_then (modest_clock lenient.plain _) fun _ => ?_
  refine modest_then (modest_db lenient.plain _ rfl) fun (recorded : Bool) => ?_
  exact modest_ite (modest_done _) (modest_fail _)

include rents in
theorem akamai_ensureForInstance_modest (found : ServerInstance) (now : UnixTimestampMillis) :
    watch.Modest exec held (manager.ensureForInstance found now) := by
  unfold AkamaiManager.ensureForInstance
  cases found.resolvedSpec.compute with
  | «local» => exact modest_fail _
  | akamai region instanceType image firewallId =>
    refine modest_then (modest_ofExcept _) fun _ => ?_
    refine modest_then (obtainCompute_modest lenient found now) fun obtained => ?_
    refine modest_then (obtainProvider_modest lenient rents _ _ _) fun provider => ?_
    refine modest_then (recordProvider_modest lenient _ _) fun recorded => ?_
    refine modest_then (modest_db lenient.plain _ rfl) fun (refreshed : Option ComputeInstance) => ?_
    cases refreshed with
    | some compute => exact modest_done _
    | none => exact modest_fail _

theorem providerToDelete_modest (compute : ComputeInstance) :
    watch.Modest exec held (manager.providerToDelete compute) := by
  unfold AkamaiManager.providerToDelete
  cases compute.providerInstanceId with
  | none =>
    refine modest_then (findInstanceByLabel_modest lenient.reads _) fun current => ?_
    cases current with
    | some provider => exact modest_ite (modest_done _) (modest_fail _)
    | none => exact modest_done _
  | some recorded =>
    dsimp only
    cases Text.parseU64 recorded with
    | none => exact modest_fail _
    | some providerId =>
      refine modest_then (modest_request lenient rfl) fun (current : Option ProviderInstance) => ?_
      cases current with
      | some provider => exact modest_ite (modest_done _) (modest_fail _)
      | none => exact modest_done _

theorem deleteProvider_modest (target : Option Nat) :
    watch.Modest exec held (AkamaiManager.deleteProvider target) := by
  cases target with
  | some providerId => exact modest_request lenient rfl
  | none => exact modest_done _

theorem akamai_delete_modest
    (ends : ∀ id result message now, watch.Permits exec held (.db (.terminateCompute id result message now)))
    (compute : ComputeInstance) : watch.Modest exec held (manager.delete compute) := by
  refine modest_then (modest_failIf _) fun _ => modest_then (modest_clock lenient.plain _) fun _ => ?_
  refine modest_then (modest_db lenient.plain _ rfl) fun (_ : Bool) => ?_
  refine modest_then (requestNodeShutdown_modest lenient.plain _) fun _ => ?_
  refine modest_then (providerToDelete_modest lenient _) fun target => ?_
  refine modest_then (deleteProvider_modest lenient _) fun _ => ?_
  refine modest_then (modest_clock lenient.plain _) fun _ => ?_
  exact modest_raising (Watch.Modest.perform (ends _ _ _ _))

theorem reapOne_modest (active : List ComputeInstance) (vm : ProviderInstance) :
    watch.Modest exec held (AkamaiManager.reapOne active vm) := by
  unfold AkamaiManager.reapOne
  cases AkamaiManager.labelledCompute vm with
  | none => exact modest_request lenient rfl
  | some uuid =>
    dsimp only
    cases active.find? fun compute => compute.id.uuid = uuid with
    | none => exact modest_request lenient rfl
    | some compute =>
      dsimp only
      cases compute.providerInstanceId with
      | none =>
        refine modest_then (modest_clock lenient.plain _) fun _ => ?_
        exact modest_then (modest_db lenient.plain _ rfl) fun (_ : Bool) => modest_done _
      | some recorded => exact modest_ite (modest_done _) (modest_request lenient rfl)

theorem reapEach_modest (active : List ComputeInstance) (machines : List ProviderInstance) :
    watch.Modest exec held (AkamaiManager.reapEach active machines) := by
  induction machines with
  | nil => exact modest_done _
  | cons vm rest ih => exact modest_then (reapOne_modest lenient active vm) fun _ => ih

theorem akamai_reapOrphans_modest (active : List ComputeInstance) :
    watch.Modest exec held (manager.reapOrphans active) := by
  refine modest_then (modest_ofExcept _) fun _ => ?_
  exact modest_then (listFrom_modest lenient.reads _ _ _ _) fun _ => reapEach_modest lenient active _

end Provider

section Local

variable (looks : ∀ op, isLook op = true → watch.Permits exec held (.machine op))
variable (manager : LocalManager)

section Looks

omit lenient
include looks

theorem modest_machine {op : LocalOp} (look : isLook op = true) :
    watch.Modest exec held (LocalManager.ask op) :=
  modest_raising (Watch.Modest.perform (looks op look))

theorem loadRuntimeState_modest (compute : ComputeInstanceId) :
    watch.Modest exec held (LocalManager.loadRuntimeState compute) := by
  refine modest_then (modest_machine looks rfl) fun (stored : Option LocalRuntimeState) => ?_
  cases stored with
  | none => exact modest_done _
  | some state => exact modest_ite (modest_fail _) (modest_done _)

theorem runtimeProcessMatches_modest (state : LocalRuntimeState) :
    watch.Modest exec held (LocalManager.runtimeProcessMatches state) := by
  refine modest_then (modest_machine looks rfl) fun (bootId : String) => ?_
  refine modest_ite (modest_done _) ?_
  refine modest_then (modest_machine looks rfl) fun (current : Option LinuxProcessState) => ?_
  cases current <;> exact modest_done _

theorem pollUntilGone_modest (state : LocalRuntimeState) (turns : Nat) :
    watch.Modest exec held (LocalManager.pollUntilGone state turns) := by
  induction turns with
  | zero => exact modest_done _
  | succ turns ih =>
    refine modest_then (modest_machine looks rfl) fun (passed : Bool) => modest_ite (modest_done _) ?_
    refine modest_then (runtimeProcessMatches_modest looks state) fun running => ?_
    exact modest_ite (modest_done _) ih

theorem waitForUntrackedProcessExit_modest (state : LocalRuntimeState) :
    watch.Modest exec held (manager.waitForUntrackedProcessExit state) := by
  refine modest_then (runtimeProcessMatches_modest looks state) fun _ => modest_ite (modest_done _) ?_
  refine modest_then (modest_machine looks rfl) fun (_ : Unit) => ?_
  refine modest_then (pollUntilGone_modest looks state _) fun _ => modest_ite (modest_done _) ?_
  refine modest_then (modest_machine looks rfl) fun (_ : Unit) => ?_
  exact modest_then (pollUntilGone_modest looks state _) fun _ => modest_ite (modest_done _) (modest_fail _)

theorem processIsRunning_modest (compute : ComputeInstance) :
    watch.Modest exec held (manager.processIsRunning compute) := by
  refine modest_then (modest_machine looks rfl) fun (child : Option Bool) => ?_
  cases child with
  | some running => exact modest_done _
  | none =>
    dsimp only
    cases compute.processId with
    | none => exact modest_done _
    | some processId =>
      refine modest_then (loadRuntimeState_modest looks compute.id) fun stored => ?_
      cases stored with
      | none => exact modest_done _
      | some state => exact modest_ite (runtimeProcessMatches_modest looks state) (modest_done _)

theorem waitForExit_modest (compute : ComputeInstance) :
    watch.Modest exec held (manager.waitForExit compute) := by
  refine modest_then (modest_machine looks rfl) fun (child : Option Nat) => ?_
  match child, compute.processId with
  | some processId, _ => exact modest_machine looks rfl
  | none, none => exact modest_done _
  | none, some processId =>
    refine modest_then (loadRuntimeState_modest looks compute.id) fun stored => ?_
    cases stored with
    | none => exact modest_done _
    | some state =>
      exact modest_ite (waitForUntrackedProcessExit_modest looks manager state) (modest_done _)

theorem terminateSpawnedChild_modest (processId : Nat) (error : LocalComputeError) :
    watch.Modest exec held (LocalManager.terminateSpawnedChild processId error : Flow LocalComputeError A) :=
  (modest_machine looks rfl).bind fun _ => modest_fail error

theorem captureRuntimeState_modest (processId : Nat) (compute : ComputeInstanceId) :
    watch.Modest exec held (manager.captureRuntimeState processId compute) := by
  refine modest_then (modest_machine looks rfl) fun (bootId : String) => ?_
  refine modest_then (modest_machine looks rfl) fun (process : Option LinuxProcessState) => ?_
  cases process with
  | none => exact modest_fail _
  | some process => exact modest_done _

theorem reapContainers_modest (active : List (ComputeInstanceId × ServerInstanceId))
    (listings : List ContainerListing) :
    watch.Modest exec held (LocalManager.reapContainers active listings) := by
  induction listings with
  | nil => exact modest_done _
  | cons listing rest ih => exact modest_ite (modest_then (modest_machine looks rfl) fun (_ : Unit) => ih) ih

theorem stopProcessFromRuntimeState_modest (compute : ComputeInstanceId) :
    watch.Modest exec held (manager.stopProcessFromRuntimeState compute) := by
  refine modest_then (loadRuntimeState_modest looks compute) fun stored => ?_
  cases stored with
  | none => exact modest_done _
  | some state =>
    refine modest_ite (modest_done _) ?_
    refine modest_then (runtimeProcessMatches_modest looks state) fun _ => ?_
    exact modest_ite (modest_done _) (waitForUntrackedProcessExit_modest looks manager state)

end Looks

theorem local_obtainCompute_modest (found : ServerInstance) (now : UnixTimestampMillis) :
    watch.Modest exec held (LocalManager.obtainCompute found now) := by
  refine modest_then (modest_db lenient.plain _ rfl) fun (existing : Option ComputeInstance) => ?_
  cases existing with
  | some compute => exact modest_ite (modest_done _) (modest_fail _)
  | none =>
    refine modest_then (newConnectionToken_modest lenient.plain) fun _ => ?_
    refine modest_then (createForInstance_modest lenient _ _ _ _ _ _) fun created => ?_
    cases created with
    | some compute => exact modest_done _
    | none => exact modest_fail _

section Process

omit lenient

variable {compute : ComputeInstance}
variable (begun : ∀ op, begins compute.id op = true → watch.Permits exec held (.machine op))
variable (clocks : watch.Permits exec held .clock)
variable (records : ∀ processId now, watch.Permits exec held (.db (.recordProcessId compute.id processId now)))
include looks begun

omit looks in
theorem modest_begin {op : LocalOp} (begin : begins compute.id op = true) :
    watch.Modest exec held (LocalManager.ask op) :=
  modest_raising (Watch.Modest.perform (begun op begin))

theorem spawnAgent_modest : watch.Modest exec held (manager.spawnAgent compute) := by
  refine modest_then (modest_begin begun (beq_self_eq_true _)) fun (_ : Unit) => ?_
  refine modest_then (modest_begin begun (beq_self_eq_true _)) fun (processId : Nat) => ?_
  refine (captureRuntimeState_modest looks manager processId compute.id).bind fun captured => ?_
  cases captured with
  | error error => exact terminateSpawnedChild_modest looks _ _
  | ok state =>
    refine Watch.Modest.bind (modest_begin begun (beq_self_eq_true _))
      fun (stored : Except LocalComputeError Unit) => ?_
    cases stored with
    | error error => exact terminateSpawnedChild_modest looks _ _
    | ok _ => exact modest_ofExcept _

include clocks records

theorem recordSpawned_modest (processId : Nat) :
    watch.Modest exec held (LocalManager.recordSpawned compute processId) := by
  refine modest_then (modest_raising (Watch.Modest.perform clocks)) fun now => ?_
  refine Watch.Modest.bind (modest_raising (Watch.Modest.perform (records _ _)))
    fun (recorded : Except LocalComputeError Bool) => ?_
  match recorded with
  | .error error => exact terminateSpawnedChild_modest looks _ _
  | .ok false => exact terminateSpawnedChild_modest looks _ _
  | .ok true => exact modest_begin begun (beq_self_eq_true _)

theorem ensureProcess_modest : watch.Modest exec held (manager.ensureProcess compute) := by
  refine modest_then (processIsRunning_modest looks manager compute) fun _ => ?_
  refine modest_ite (modest_done _) (modest_then (spawnAgent_modest looks manager begun) fun processId => ?_)
  exact modest_then (recordSpawned_modest looks begun clocks records processId) fun _ => modest_done _

end Process

variable (hosts : ∀ op, watch.Permits exec held (.machine op))
variable (records : ∀ id processId now, watch.Permits exec held (.db (.recordProcessId id processId now)))

include hosts records in
theorem local_ensureForInstance_modest (found : ServerInstance) (now : UnixTimestampMillis) :
    watch.Modest exec held (manager.ensureForInstance found now) := by
  refine modest_then (local_obtainCompute_modest lenient found now) fun compute => ?_
  refine modest_then (ensureProcess_modest (fun op _ => hosts op) manager (fun op _ => hosts op)
    (lenient.plain .clock rfl) (records _)) fun _ => ?_
  refine modest_then (modest_db lenient.plain _ rfl) fun (refreshed : Option ComputeInstance) => ?_
  cases refreshed with
  | some compute => exact modest_done _
  | none => exact modest_fail _

include hosts in
theorem local_delete_modest
    (ends : ∀ id result message now, watch.Permits exec held (.db (.terminateCompute id result message now)))
    (compute : ComputeInstance) :
    watch.Modest exec held (manager.delete compute) := by
  have looks : ∀ op, isLook op = true → watch.Permits exec held (.machine op) := fun op _ => hosts op
  refine modest_then (modest_clock lenient.plain _) fun _ => ?_
  refine modest_then (modest_db lenient.plain _ rfl) fun (_ : Bool) => ?_
  refine modest_then (requestNodeShutdown_modest lenient.plain _) fun _ => ?_
  refine modest_then (waitForExit_modest looks manager compute) fun _ => ?_
  refine modest_then (modest_raising (Watch.Modest.perform (hosts _))) fun (_ : Unit) => ?_
  refine modest_then (modest_clock lenient.plain _) fun _ => ?_
  exact modest_raising (Watch.Modest.perform (ends _ _ _ _))

omit lenient in
include hosts in
theorem local_reapOrphans_modest (active : List (ComputeInstanceId × ServerInstanceId)) :
    watch.Modest exec held (manager.reapOrphans active) := by
  have looks : ∀ op, isLook op = true → watch.Permits exec held (.machine op) := fun op _ => hosts op
  have directories : ∀ found, watch.Modest exec held (manager.reapDirectories active found) := by
    intro found
    induction found with
    | nil => exact modest_done _
    | cons compute rest ih =>
      refine modest_ite (modest_then (stopProcessFromRuntimeState_modest looks manager compute) fun _ => ?_) ih
      exact modest_then (modest_raising (Watch.Modest.perform (hosts _))) fun (_ : Unit) => ih
  refine modest_then (modest_machine looks rfl) fun (listed : List ContainerListing) => ?_
  refine modest_then (reapContainers_modest looks active listed) fun _ => ?_
  exact modest_then (modest_machine looks rfl) fun (found : List ComputeInstanceId) => directories found

end Local

section Turns

variable {manager : ComputeManager}
variable (rents : ∀ akamai, manager.akamai = some akamai → ∀ label spec found compute,
  watch.Modest exec held (akamai.createInstance label spec found compute))
variable (ensures : ∀ found now, watch.Modest exec held (manager.localProcess.ensureForInstance found now))

include rents ensures in
theorem ensureForInstance_modest (found : ServerInstance) (now : UnixTimestampMillis) :
    watch.Modest exec held (manager.ensureForInstance found now) := by
  unfold ComputeManager.ensureForInstance
  cases found.resolvedSpec.compute with
  | «local» => exact modest_raising (ensures found now)
  | akamai region instanceType image firewallId =>
    dsimp only
    cases configured : manager.akamai with
    | none => exact modest_fail _
    | some akamai =>
      exact modest_raising (akamai_ensureForInstance_modest lenient (rents akamai configured) found now)

theorem deleteCompute_modest
    (ends : ∀ id result message now, watch.Permits exec held (.db (.terminateCompute id result message now)))
    (deletes : ∀ compute, watch.Modest exec held (manager.localProcess.delete compute))
    (compute : ComputeInstance) :
    watch.Modest exec held (ReconcileWorker.deleteCompute manager compute) := by
  have deleted : watch.Modest exec held (manager.delete compute) := by
    unfold ComputeManager.delete
    cases compute.provider with
    | localProcess => exact modest_raising (deletes compute)
    | akamai =>
      dsimp only
      cases manager.akamai with
      | none => exact modest_fail _
      | some akamai => exact modest_raising (akamai_delete_modest lenient ends compute)
  exact modest_then (modest_raising deleted) fun _ => modest_done _

theorem inspectAndPersist_modest (found : ServerInstance) (compute : ComputeInstance) :
    watch.Modest exec held (ReconcileWorker.inspectAndPersist found compute) := by
  have persisted : ∀ observed now, watch.Modest exec held
      (ReconcileWorker.persistObservations found observed now) := by
    refine fun observed now => modest_ite (modest_then (modest_db lenient.plain _ rfl) fun (_ : Bool) => modest_done _) ?_
    exact modest_ite (modest_then (modest_db lenient.plain _ rfl) fun (_ : Bool) => modest_done _) (modest_done _)
  refine modest_then (modest_ask lenient.plain _ _ _) fun observed => modest_then (modest_failIf _) fun _ => ?_
  refine modest_then (modest_clock lenient.plain _) fun now => ?_
  exact modest_then (persisted observed now) fun _ => modest_done _

theorem askAndNote_modest {C : Type} (compute : ComputeInstanceId) (command : Command)
    (expect : CommandResult → Except AgentCallError C) (op : UnixTimestampMillis → DbOp)
    (plain : ∀ now, isPlain (.db (op now)) = true) (next : ∀ now, (op now).Value → Reconcile StepOutcome)
    (onward : ∀ now result, watch.Modest exec held (next now result)) :
    watch.Modest exec held (Try.bind (ControlPlane.request compute command expect) fun _ =>
      Try.bind ReconcileWorker.now fun now => Try.bind (db .repository (op now)) (next now)) :=
  modest_then (modest_ask lenient.plain _ _ _) fun _ => modest_then (modest_clock lenient.plain _) fun now =>
    modest_then (modest_db lenient.plain _ (plain now)) (onward now)

include rents ensures in
theorem reconcileRunning_modest (server : Server) (found : ServerInstance) :
    watch.Modest exec held (ReconcileWorker.reconcileRunning manager server found) := by
  refine modest_then (modest_clock lenient.plain _) fun provisionedAt => ?_
  refine modest_then (modest_raising (ensureForInstance_modest lenient rents ensures found provisionedAt))
    fun ensured => ?_
  refine modest_ite (modest_done _) (modest_ite ?_ ?_)
  · refine modest_then (modest_raising (modest_ofExcept _)) fun _ => ?_
    exact modest_then (modest_db lenient.plain _ rfl) fun (_ : Bool) => modest_done _
  · refine modest_then (modest_link lenient.plain _) fun (connected : Bool) => modest_ite (modest_done _) ?_
    refine modest_then (inspectAndPersist_modest lenient _ _) fun observed => modest_ite (modest_done _) ?_
    refine modest_ite ?_ (modest_ite ?_ (modest_done _))
    · exact askAndNote_modest lenient _ _ _ (fun now => .markDataPrepared found.id now) (fun _ => rfl)
        (fun _ _ => pure .changed) fun _ _ => modest_done _
    · exact askAndNote_modest lenient _ _ _ (fun now => .observeProcess found.id true now) (fun _ => rfl)
        (fun _ _ => pure .changed) fun _ _ => modest_done _

theorem commit_modest (found : ServerInstance) (snapshotId : String) :
    watch.Modest exec held (ReconcileWorker.commit found snapshotId) :=
  modest_then (modest_clock lenient.plain _) fun _ =>
    modest_then (modest_db lenient.plain _ rfl) fun (_ : Bool) => modest_done _

theorem publish_modest (server : Server) (found : ServerInstance) (compute : ComputeInstance)
    (lastSnapshotId : Option String) :
    watch.Modest exec held (ReconcileWorker.publish server found compute lastSnapshotId) := by
  cases lastSnapshotId with
  | some snapshotId => exact commit_modest lenient found snapshotId
  | none => exact modest_then (modest_ask lenient.plain _ _ _) fun snapshotId => commit_modest lenient found snapshotId

include rents ensures in
theorem stopConnected_modest (server : Server) (found : ServerInstance) (compute : ComputeInstance)
    (deleted : watch.Modest exec held (ReconcileWorker.deleteCompute manager compute)) :
    watch.Modest exec held (ReconcileWorker.stopConnected manager server found compute) := by
  refine modest_then (modest_clock lenient.plain _) fun provisionedAt => ?_
  refine modest_then (modest_raising (ensureForInstance_modest lenient rents ensures found provisionedAt))
    fun ensured => ?_
  refine modest_ite (modest_done _) ?_
  refine modest_then (modest_link lenient.plain _) fun (connected : Bool) => modest_ite (modest_done _) ?_
  refine modest_then (inspectAndPersist_modest lenient _ _) fun observed => modest_ite (modest_done _) ?_
  refine modest_ite ?_ (modest_ite (publish_modest lenient _ _ _ _) ?_)
  · exact askAndNote_modest lenient _ _ _ (fun now => .observeProcess found.id false now) (fun _ => rfl)
      (fun _ _ => pure .changed) fun _ _ => modest_done _
  · exact modest_then (modest_ask lenient.plain _ _ _) fun changed => modest_ite (modest_done _) deleted

theorem complete_modest (found : ServerInstance) : watch.Modest exec held (ReconcileWorker.complete found) := by
  refine modest_then (modest_failIf _) fun _ => modest_then (modest_clock lenient.plain _) fun _ => ?_
  exact modest_then (modest_db lenient.plain _ rfl) fun (_ : Bool) => modest_done _

theorem mayDelete_modest (found : ServerInstance) (compute : ComputeInstance) :
    watch.Modest exec held (ReconcileWorker.mayDelete found compute) := by
  refine modest_ite (modest_done _) (modest_ite (modest_done _) ?_)
  exact modest_then (modest_link lenient.plain _) fun (_ : Bool) => modest_done _

include rents ensures in
theorem reconcileStopping_modest
    (deletes : ∀ compute, watch.Modest exec held (ReconcileWorker.deleteCompute manager compute))
    (server : Server) (found : ServerInstance) :
    watch.Modest exec held (ReconcileWorker.reconcileStopping manager server found) := by
  refine modest_then (modest_db lenient.plain _ rfl) fun (active : Option ComputeInstance) => ?_
  cases active with
  | none => exact complete_modest lenient found
  | some compute =>
    refine modest_then (mayDelete_modest lenient found compute) fun _ => ?_
    exact modest_ite (deletes compute)
      (stopConnected_modest lenient rents ensures server found compute (deletes compute))

variable (stops : ∀ server found,
  watch.Modest exec held (ReconcileWorker.reconcileStopping manager server found))

include rents ensures stops in
theorem reconcileOnce_modest (server : ServerId) :
    watch.Modest exec held (ReconcileWorker.reconcileOnce manager server) := by
  refine modest_then (modest_db lenient.plain _ rfl) fun (stored : Option Server) => ?_
  cases stored with
  | none => exact modest_done _
  | some server =>
    refine modest_then (modest_db lenient.plain _ rfl) fun (active : Option ServerInstance) => ?_
    cases active with
    | none =>
      refine modest_ite (modest_then (modest_clock lenient.plain _) fun now => ?_) (modest_done _)
      have created : watch.Modest exec held (createForRunningServer server.id now) := by
        refine modest_then (modest_newUuid lenient.plain) fun uuid => ?_
        refine modest_then (modest_db lenient.plain _ rfl) fun (inserted : Bool) => ?_
        exact modest_ite (modest_db lenient.plain _ rfl) (modest_done _)
      exact modest_then created fun _ => modest_done _
    | some found =>
      have rest : watch.Modest exec held (if found.stopRequestedAt.isSome then
          ReconcileWorker.reconcileStopping manager server found
          else ReconcileWorker.reconcileRunning manager server found) :=
        modest_ite (stops server found) (reconcileRunning_modest lenient rents ensures server found)
      refine modest_ite (modest_then (modest_clock lenient.plain _) fun now => ?_) rest
      exact modest_then (modest_db lenient.plain _ rfl) fun (requested : Bool) => modest_ite (modest_done _) rest

include rents ensures stops in
theorem reconcileTurns_modest (server : ServerId) (turns : Nat) :
    watch.Modest exec held (ReconcileWorker.reconcileTurns manager server turns) := by
  induction turns with
  | zero => exact modest_fail _
  | succ turns ih =>
    refine modest_then (reconcileOnce_modest lenient rents ensures stops server) fun outcome => ?_
    cases outcome with
    | changed => exact ih
    | stable => exact modest_done _
    | awaiting => exact modest_done _

include rents ensures stops in
theorem reconcileAndSchedule_modest (server : ServerId) :
    watch.Modest exec held (ReconcileWorker.reconcileAndSchedule manager server) := by
  refine (reconcileTurns_modest lenient rents ensures stops server _).bind fun outcome => ?_
  cases outcome with
  | ok _ => exact modest_done _
  | error error =>
    have recorded : watch.Modest exec held (ReconcileWorker.recordError server error) := by
      refine modest_then (modest_db lenient.plain _ rfl) fun (active : Option ServerInstance) => ?_
      cases active with
      | none => exact modest_done _
      | some found => exact modest_then (modest_clock lenient.plain _) fun _ => modest_db lenient.plain _ rfl
    exact recorded.bind fun _ => modest_done _

theorem startUp_modest (reapLocal : Bool)
    (reaps : ∀ next : Reconcile Unit, watch.Modest exec held next → watch.Modest exec held
      (Try.bind (db .repository .listActiveLocalOwnership) fun ownership =>
        Try.bind (Try.raising (fun error => .compute (.local error))
          (manager.localProcess.reapOrphans ownership)) fun _ => next)) :
    watch.Modest exec held (startUp manager reapLocal) := by
  unfold startUp
  cases manager.akamai with
  | none => exact modest_ite (reaps _ (modest_done _)) (modest_done _)
  | some akamai =>
    have remote : watch.Modest exec held (if akamai.config.reapOrphansOnStart then
        Try.bind (db .repository .listActiveAkamai) fun (active : List ComputeInstance) =>
          Try.raising (fun error => .compute (.akamai error)) (akamai.reapOrphans active)
        else pure () : Reconcile Unit) := by
      refine modest_ite (modest_then (modest_db lenient.plain _ rfl) fun (active : List ComputeInstance) => ?_)
        (modest_done _)
      exact modest_raising (akamai_reapOrphans_modest lenient active)
    exact modest_ite (reaps _ remote) remote

end Turns

end Worker

section Others

variable (calm : ∀ op, isPlain op = true → watch.Permits exec held op)
include calm

section Clients

variable (base : Option String)

omit calm in
theorem validated_modest {C : Type} (result : Except ValidationError C) :
    watch.Modest exec held (ServerService.validated result) :=
  modest_raising (modest_ofExcept _)

omit calm in
theorem found_modest (server : Option Server) : watch.Modest exec held (ServerService.found server) := by
  cases server with
  | some server => exact modest_done _
  | none => exact modest_fail _

omit calm in
theorem conflict_modest (expected : Option Nat) (current : Option Server) :
    watch.Modest exec held (ServerService.conflict expected current) :=
  modest_then (found_modest current) fun _ => modest_fail _

theorem create_modest (name : String) (spec : DesiredServerSpec) :
    watch.Modest exec held (ServerService.create base name spec) := by
  refine modest_then (modest_clock calm _) fun _ => modest_then (validated_modest _) fun _ => ?_
  refine modest_then (modest_newUuid calm) fun _ => modest_then (validated_modest _) fun _ => ?_
  refine modest_then (validated_modest _) fun _ => ?_
  exact modest_then (modest_db calm _ rfl) fun (_ : Unit) => modest_done _

theorem applyTurns_modest (name : ServerName) (spec : DesiredServerSpec) (expected : Option Nat)
    (turns : Nat) : watch.Modest exec held (ServerService.applyTurns base name spec expected turns) := by
  induction turns with
  | zero => exact modest_fail _
  | succ turns ih =>
    refine modest_then (modest_db calm _ rfl) fun (stored : Option Server) => ?_
    cases stored with
    | none => exact modest_ite (modest_fail _) (create_modest calm base _ _)
    | some server =>
      refine modest_then (modest_ofExcept _) fun _ => modest_then (validated_modest _) fun _ => ?_
      refine modest_then (modest_clock calm _) fun _ => modest_then (validated_modest _) fun _ => ?_
      refine modest_ite (modest_done _) (modest_then (modest_db calm _ rfl) fun (_ : Bool) => ?_)
      refine modest_ite (modest_done _) (modest_ite ?_ ih)
      exact modest_then (modest_db calm _ rfl) fun (_ : Option Server) => conflict_modest _ _

theorem setDesiredStateTurns_modest (name : ServerName) (state : DesiredState) (expected : Option Nat)
    (turns : Nat) : watch.Modest exec held (ServerService.setDesiredStateTurns name state expected turns) := by
  induction turns with
  | zero => exact modest_fail _
  | succ turns ih =>
    refine modest_then (modest_db calm _ rfl) fun (_ : Option Server) => modest_then (found_modest _) fun _ => ?_
    refine modest_then (modest_ofExcept _) fun _ => modest_then (modest_clock calm _) fun _ => ?_
    refine modest_then (validated_modest _) fun _ => modest_ite (modest_done _) ?_
    refine modest_then (modest_db calm _ rfl) fun (_ : Bool) => modest_ite (modest_done _) (modest_ite ?_ ih)
    exact modest_then (modest_db calm _ rfl) fun (_ : Option Server) => conflict_modest _ _

theorem archiveTurns_modest (name : ServerName) (expected : Option Nat) (turns : Nat) :
    watch.Modest exec held (ServerService.archiveTurns name expected turns) := by
  induction turns with
  | zero => exact modest_fail _
  | succ turns ih =>
    refine modest_then (modest_db calm _ rfl) fun (_ : Option Server) => modest_then (found_modest _) fun _ => ?_
    refine modest_then (modest_ofExcept _) fun _ => modest_ite (modest_done _) ?_
    refine modest_then (modest_db calm _ rfl) fun (_ : Bool) => modest_then (modest_failIf _) fun _ => ?_
    refine modest_then (modest_clock calm _) fun _ => modest_then (validated_modest _) fun _ => ?_
    refine modest_then (modest_db calm _ rfl) fun (_ : Bool) => modest_ite (modest_done _) (modest_ite ?_ ih)
    exact modest_then (modest_db calm _ rfl) fun (_ : Option Server) => conflict_modest _ _

theorem serve_modest (request : ClientRequest) : watch.Modest exec held (ServerService.serve base request) := by
  refine (Watch.Modest.perform (calm .begin rfl)).bind fun since => ?_
  refine Watch.Modest.bind ?_ fun result => Watch.Modest.perform (calm (.reply since request result) rfl)
  cases request with
  | create name spec => exact create_modest calm base name spec
  | apply name spec expected =>
    exact modest_then (validated_modest _) fun name => applyTurns_modest calm base name spec expected 3
  | setDesiredState name state expected =>
    exact modest_then (validated_modest _) fun name => setDesiredStateTurns_modest calm name state expected 3
  | archive name expected =>
    exact modest_then (validated_modest _) fun name => archiveTurns_modest calm name expected 3

end Clients

section Connections

variable (connection : Connection) (context : ConnectionContext)

theorem respond_modest (response : AgentResponse) : watch.Modest exec held (connection.respond response) :=
  modest_raising (Watch.Modest.perform (calm (.respond _ _ _ _) rfl))

theorem acceptRecorded_modest (params : EnrollParams) :
    watch.Modest exec held (connection.acceptRecorded params) := by
  refine modest_then (modest_db calm _ rfl) fun (existing : Option AgentEnrollment) => ?_
  cases existing with
  | none => exact respond_modest calm connection _
  | some existing =>
    refine modest_ite (respond_modest calm connection _) ?_
    cases existing.certificateChainPem with
    | none => exact modest_fail _
    | some chain => exact respond_modest calm connection _

theorem signAndRecord_modest (params : EnrollParams) (enrollment : AgentEnrollment) :
    watch.Modest exec held (connection.signAndRecord context params enrollment) := by
  unfold Connection.signAndRecord
  cases context.certificateValidityMillis with
  | none => exact modest_fail _
  | some validity =>
    refine modest_then (modest_clock calm _) fun _ => modest_then (modest_raising ?_) fun signed => ?_
    · refine modest_then (modest_ofExcept _) fun _ => ?_
      exact modest_then (Watch.Modest.perform (calm (.openssl _ _) rfl)) fun (_ : SignedFiles) => modest_ofExcept _
    · refine modest_then (modest_db calm _ rfl) fun (recorded : Bool) => ?_
      exact modest_ite (respond_modest calm connection _) (acceptRecorded_modest calm connection params)

theorem enroll_modest (params : EnrollParams) : watch.Modest exec held (connection.enroll context params) := by
  refine modest_then (modest_db calm _ rfl) fun (found : Option AgentEnrollment) => ?_
  cases found with
  | none => exact respond_modest calm connection _
  | some enrollment =>
    dsimp only
    cases Connection.recordedChain enrollment params.certificateSigningRequestPem with
    | some chain => exact respond_modest calm connection _
    | none =>
      exact modest_ite (signAndRecord_modest calm connection context params enrollment)
        (respond_modest calm connection _)

theorem runtimeEnvironment_modest (compute : ComputeInstance) :
    watch.Modest exec held (Connection.runtimeEnvironmentForRegistration context compute) := by
  refine modest_ite (modest_done _) ?_
  refine modest_then (modest_db calm _ rfl) fun (found : Option ServerInstance) => ?_
  match found, context.r2Credentials with
  | none, _ => exact modest_fail _
  | some _, none => exact modest_fail _
  | some found, some manager =>
    refine modest_raising (modest_then (modest_ofExcept _) fun keyPrefix => modest_then ?_ fun _ => modest_ofExcept _)
    exact modest_then (modest_ofExcept _) fun _ => Watch.Modest.perform (calm (.issueCredentials _ _ _) rfl)

theorem authenticate_modest (params : RegisterParams) (compute : ComputeInstance) :
    watch.Modest exec held (connection.authenticate context params compute) := by
  refine modest_then (modest_clock calm _) fun _ => ?_
  refine modest_then (modest_db calm _ rfl) fun (verdict : AgentAuthentication) => ?_
  cases verdict with
  | rejected => exact respond_modest calm connection _
  | accepted =>
    refine modest_then (modest_lift (runtimeEnvironment_modest calm context compute)) fun environment => ?_
    cases environment with
    | ok environment =>
      refine modest_then (respond_modest calm connection _) fun _ => ?_
      refine modest_then (modest_link calm _) fun (_ : Unit) => ?_
      exact modest_then (modest_link calm _) fun (_ : Unit) => modest_link calm _
    | error error => exact modest_then (respond_modest calm connection _) fun _ => modest_fail _

theorem handleRegistration_modest (params : Option RegisterParams) :
    watch.Modest exec held (connection.handleRegistration context params) := by
  cases params with
  | none => exact respond_modest calm connection _
  | some params =>
    refine modest_ite (respond_modest calm connection _) (modest_ite (respond_modest calm connection _) ?_)
    refine modest_then (modest_db calm _ rfl) fun (stored : Option ComputeInstance) => ?_
    cases stored with
    | none => exact respond_modest calm connection _
    | some compute =>
      exact modest_ite (respond_modest calm connection _)
        (authenticate_modest calm connection context params compute)

theorem handle_modest : watch.Modest exec held (connection.handle context) := by
  unfold Connection.handle
  cases connection.request.id with
  | invalid => exact modest_then (respond_modest calm connection _) fun _ => modest_fail _
  | missing => exact modest_fail _
  | present =>
    refine modest_ite (respond_modest calm connection _) ?_
    cases connection.request.method with
    | enroll params =>
      refine modest_ite (respond_modest calm connection _) ?_
      cases params with
      | none => exact respond_modest calm connection _
      | some params =>
        exact modest_ite (respond_modest calm connection _) (enroll_modest calm connection context params)
    | register params => exact handleRegistration_modest calm connection context params
    | other => exact modest_then (respond_modest calm connection _) fun _ => modest_fail _

theorem handleConnection_modest (request : AgentRequest) (der : Option (List UInt8)) :
    watch.Modest exec held (handleConnection context request der) := by
  refine (Watch.Modest.perform (calm .begin rfl)).bind fun since => ?_
  refine (Watch.Modest.perform (calm (.link .accept) rfl)).bind fun number => ?_
  exact (handle_modest calm _ context).bind fun _ => modest_done _

end Connections

-- Nobody but the worker turns to the provider or to the local machine.
theorem others_modest (setup : Setup) {thread : Thread} (other : thread ≠ .worker) (task : Task) :
    watch.Modest exec held (program setup thread task) := by
  cases thread with
  | worker => exact absurd rfl other
  | client number =>
    cases task with
    | request request => exact serve_modest calm _ request
    | startUp | reconcile | connect => exact modest_done _
  | connection number =>
    cases task with
    | connect listener request certificate => exact handleConnection_modest calm _ request certificate
    | startUp | reconcile | request => exact modest_done _

end Others

end Walks

def apart : Watch Op Choice World where
  base _ := True
  rest _ := True
  drift _ _ _ := True
  admits _ _ _ := True
  guard op _ := isPlain op = true

theorem others_plain {setup : Setup} {run : Run} {world : World} {thread : Thread} (other : thread ≠ .worker) {op : Op}
    {next : op.Res → Prog Op Op.Res Unit}
    (waiting : ((machine setup).run run (Machine.idle world)).threads thread = .call op next) :
    isPlain op = true := by
  have started : ∀ task, apart.Modest (machine setup).exec (fun _ => True)
      ((machine setup).program thread task) :=
    others_modest (fun op plain _ _ _ _ _ => ⟨plain, fun _ _ => trivial⟩) setup other
  have around : (machine setup).Along (apart.Around (machine setup) thread) run (Machine.idle world) :=
    Machine.along_of_forall _ (fun _ _ => ⟨trivial, fun _ _ _ _ _ => trivial, fun _ _ _ _ => trivial,
      fun _ _ _ => trivial, fun _ => trivial⟩) run _
  have idle : apart.Safe (machine setup).exec
      ((Machine.idle world : Config Thread Op Op.Res World).threads thread) (fun _ _ => True) world := trivial
  have safe := Watch.run_safe (fun _ _ => trivial) (fun _ _ _ _ _ _ => trivial) started around idle
  rw [waiting] at safe
  exact (safe world trivial trivial).1

end McServer.System
