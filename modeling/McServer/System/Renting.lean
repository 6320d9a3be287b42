import McServer.System.Steps
import McServer.System.Walks

set_option autoImplicit false

namespace McServer.System

open Domain Store Agent ControlPlane Interleaving Interleaving.Contract

structure Renting {T : Type} (contract : Contract T Op World) (thread : T) : Prop where
  fleet : ∀ world, contract.Inv world → Fleet world.provider
  account : ∀ before after, contract.Rely thread before after → Untouched before.provider after.provider
  reads : ∀ op world, isRead op = true → contract.Guard thread (.provider op) world
  files : ∀ path maximum world, contract.Guard thread (.readBounded path maximum) world

structure Sighted (vm : ProviderInstance) (world : World) : Prop where
  old : vm.id < world.provider.nextId
  bounded : vm.id ≤ maximumU64
  only : ∀ other ∈ world.provider.instances, other.id = vm.id → other = vm

def Vacant (compute : ComputeInstanceId) (world : World) : Prop :=
  ∀ vm ∈ world.provider.instances, vm.label ≠ providerLabel compute

def Sole (compute : ComputeInstanceId) (vm : ProviderInstance) (world : World) : Prop :=
  ∀ other ∈ world.provider.instances, other.label = providerLabel compute → other = vm

structure Leased (compute : ComputeInstanceId) (vm : ProviderInstance) (world : World) : Prop where
  sighted : Sighted vm world
  label : vm.label = providerLabel compute
  sole : Sole compute vm world

theorem Fleet.sole {world : World} (fleet : Fleet world.provider) {compute : ComputeInstanceId}
    {vm : ProviderInstance} (member : vm ∈ world.provider.instances)
    (labelled : vm.label = providerLabel compute) : Sole compute vm world :=
  fun other present same => fleet.single other present vm member compute same labelled

theorem Fleet.sighted {world : World} (fleet : Fleet world.provider) {vm : ProviderInstance}
    (member : vm ∈ world.provider.instances) : Sighted vm world :=
  ⟨fleet.below vm member, fleet.within vm member, fun _ present same =>
    fleet.numbered.eq_of_key present member same⟩

theorem Fleet.leased {world : World} (fleet : Fleet world.provider) {compute : ComputeInstanceId}
    {vm : ProviderInstance} (member : vm ∈ world.provider.instances)
    (labelled : vm.label = providerLabel compute) : Leased compute vm world :=
  ⟨fleet.sighted member, labelled, fleet.sole member labelled⟩

theorem isOwnedBy_label {vm : ProviderInstance} {label tag : String}
    (owned : vm.isOwnedBy label tag = true) : vm.label = label := by
  simp only [ProviderInstance.isOwnedBy, Bool.and_eq_true, decide_eq_true_eq] at owned
  exact owned.1.1

theorem exec_read {op : ProviderOp} (read : isRead op = true) (choice : Choice) (world : World) :
    (exec (.provider op) choice world).2 = world := by
  have settled : settleProvider op (world.provider.apply op choice.answers).2 world = world := by
    cases op <;> first | rfl | cases read
  simp only [exec, execProvider]
  split
  · rfl
  · split
    · exact settled
    · rfl
    · exact settled

theorem exec_read_value {op : ProviderOp} {choice : Choice} {world : World} {value : op.Value}
    (accepted : (exec (.provider op) choice world).1 = .ok value) :
    value = (world.provider.apply op choice.answers).1 := by
  simp only [exec, execProvider] at accepted
  split at accepted
  · cases accepted
  · split at accepted
    · injection accepted with same
      exact same.symm
    · cases accepted
    · cases accepted

section Renting

variable {T : Type} {contract : Contract T Op World} {thread : T}

theorem Sighted.stable (renting : Renting contract thread) (vm : ProviderInstance) :
    contract.Stable thread (Sighted vm) := by
  intro before after seen rely _
  obtain ⟨vms, nextId⟩ := renting.account before after rely
  refine ⟨lt_of_lt_of_le seen.old nextId, seen.bounded, fun other member same => ?_⟩
  rcases vms other member with present | ⟨recent, -⟩
  · exact seen.only other present same
  · have old := seen.old
    omega

theorem Vacant.stable (renting : Renting contract thread) (compute : ComputeInstanceId) :
    contract.Stable thread (Vacant compute) := by
  intro before after vacant rely _ vm member
  rcases (renting.account before after rely).vms vm member with present | ⟨-, foreign⟩
  · exact vacant vm present
  · exact ne_providerLabel foreign compute

theorem labelled_stable (renting : Renting contract thread) {compute : ComputeInstanceId} {holds : ProviderInstance → Prop} :
    contract.Stable thread fun world => ∀ vm ∈ world.provider.instances,
      vm.label = providerLabel compute → holds vm := by
  intro before after held rely _ vm member labelled
  rcases (renting.account before after rely).vms vm member with present | ⟨-, foreign⟩
  · exact held vm present labelled
  · exact absurd labelled (ne_providerLabel foreign compute)

theorem Leased.stable (renting : Renting contract thread) (compute : ComputeInstanceId)
    (vm : ProviderInstance) : contract.Stable thread (Leased compute vm) :=
  fun before after leased rely inv =>
    ⟨Sighted.stable renting vm before after leased.sighted rely inv, leased.label,
      labelled_stable renting before after leased.sole rely inv⟩

variable (renting : Renting contract thread) {frame : World → Prop} (steady : contract.Stable thread frame)
include renting steady

theorem request_reads (op : ProviderOp) (read : isRead op = true) (told : op.Value → World → Prop)
    (answer : ∀ (world : World) (choice : Choice), contract.Inv world → frame world →
      told (world.provider.apply op choice.answers).1 world) :
    contract.Does exec thread frame (AkamaiClient.request op)
      fun value world => frame world ∧ told value world := by
  refine Does.raising (Triple.perform steady fun world inv held => ?_)
  refine ⟨renting.reads op world read, fun choice value accepted => ?_⟩
  rw [exec_read read, exec_read_value accepted]
  exact ⟨held, answer world choice inv held⟩

theorem reads_permitted (op : ProviderOp) (read : isRead op = true) :
    (Watch.ofContract contract thread).Permits exec frame (.provider op) := by
  refine Watch.permits_of_triple (Triple.perform steady fun world _ held => ?_)
  refine ⟨renting.reads op world read, fun choice => ?_⟩
  rwa [exec_read read]

theorem files_permitted (path : String) (maximum : Nat) :
    (Watch.ofContract contract thread).Permits exec frame (.readBounded path maximum) :=
  Watch.permits_of_triple (Triple.perform steady fun world _ held =>
    ⟨renting.files path maximum world, fun _ => held⟩)

omit renting steady in
theorem mem_page {provider : Provider} {filter : InstanceFilter} {number : Nat}
    {vm : ProviderInstance} (member : vm ∈ (provider.page filter number).data) :
    vm ∈ provider.instances := by
  have matched := List.mem_of_mem_drop (List.mem_of_mem_take member)
  cases filter with
  | managed => exact List.mem_of_mem_filter matched
  | label label => exact List.mem_of_mem_filter matched

def AllSighted (keeps : ProviderInstance → Bool) (found : List ProviderInstance) (world : World) : Prop :=
  ∀ vm ∈ found, Sighted vm world ∧ keeps vm = true

omit steady in
theorem AllSighted.stable (keeps : ProviderInstance → Bool) (found : List ProviderInstance) :
    contract.Stable thread (AllSighted keeps found) := by
  intro before after seen rely inv vm member
  obtain ⟨sighted, kept⟩ := seen vm member
  exact ⟨Sighted.stable renting vm before after sighted rely inv, kept⟩

theorem listPage_sights (filter : InstanceFilter) (keeps : ProviderInstance → Bool) (page : Nat)
    (found : List ProviderInstance) :
    contract.Does exec thread (fun world => frame world ∧ AllSighted keeps found world)
      (AkamaiClient.request (.listInstances filter page))
      fun body world => frame world ∧ AllSighted keeps (found ++ body.data.filter keeps) world := by
  refine (request_reads renting (steady.and (AllSighted.stable renting keeps found))
    (.listInstances filter page) rfl (fun (body : ListInstancesResponse) world => ∀ vm ∈ body.data, Sighted vm world) fun world choice inv _ vm member =>
      (renting.fleet world inv).sighted (mem_page member)).weaken ?_
  rintro body world ⟨⟨held, seen⟩, fresh⟩
  refine ⟨held, fun vm member => ?_⟩
  rcases List.mem_append.mp member with old | new
  · exact seen vm old
  · obtain ⟨present, kept⟩ := List.mem_filter.mp new
    exact ⟨fresh vm present, kept⟩

theorem listFrom_sights (filter : InstanceFilter) (keeps : ProviderInstance → Bool) (remaining : Nat)
    (found : List ProviderInstance) :
    contract.Does exec thread (fun world => frame world ∧ AllSighted keeps found world)
      (AkamaiClient.listFrom filter keeps remaining found)
      fun listed world => frame world ∧ AllSighted keeps listed world := by
  induction remaining generalizing found with
  | zero =>
    rw [AkamaiClient.listFrom]
    refine Does.bind _ (listPage_sights renting steady filter keeps _ found) fun body => ?_
    exact Does.pure fun _ held => held
  | succ remaining ih =>
    rw [AkamaiClient.listFrom]
    refine Does.bind _ (listPage_sights renting steady filter keeps _ found) fun body => ?_
    exact Does.ite (fun _ => Does.pure fun _ held => held) fun _ => ih _

theorem listManagedInstances_sights (scope : String) :
    contract.Does exec thread frame (AkamaiClient.listManagedInstances scope)
      fun listed world => frame world ∧ AllSighted
        (fun vm => vm.tags.contains managedTag && vm.tags.contains (scopeTag scope)) listed world :=
  (listFrom_sights renting steady .managed _ _ []).strengthen fun _ held => ⟨held, nofun⟩

omit renting steady in
theorem matching_short {provider : Provider} (fleet : Fleet provider) (compute : ComputeInstanceId) :
    (provider.matching (.label (providerLabel compute))).length ≤ 1 := by
  have distinct : (provider.matching (.label (providerLabel compute))).Nodup :=
    (List.Nodup.of_map _ fleet.numbered).filter _
  have same : ∀ first ∈ provider.matching (.label (providerLabel compute)),
      ∀ second ∈ provider.matching (.label (providerLabel compute)), first = second := by
    intro first member second member'
    obtain ⟨present, labelled⟩ := List.mem_filter.mp member
    obtain ⟨present', labelled'⟩ := List.mem_filter.mp member'
    exact fleet.single first present second present' compute (by simpa using labelled)
      (by simpa using labelled')
  cases listed : provider.matching (.label (providerLabel compute)) with
  | nil => simp
  | cons first rest =>
    cases rest with
    | nil => simp
    | cons second rest =>
      rw [listed] at distinct same
      have equal := same first (by simp) second (by simp)
      simp [equal] at distinct

omit renting steady in
theorem page_label {provider : Provider} (fleet : Fleet provider) (compute : ComputeInstanceId) :
    (provider.page (.label (providerLabel compute)) 1).data =
        provider.matching (.label (providerLabel compute)) ∧
      (provider.page (.label (providerLabel compute)) 1).pages ≤ 1 := by
  have short := matching_short fleet compute
  constructor
  · simp only [Provider.page]
    rw [Nat.sub_self, Nat.zero_mul, List.drop_zero]
    exact List.take_of_length_le (short.trans (by decide))
  · simp only [Provider.page, pageSize]
    omega

theorem listAll_label (compute : ComputeInstanceId) : contract.Does exec thread frame
      (AkamaiClient.listAll (.label (providerLabel compute)) fun vm => vm.label = providerLabel compute)
      fun listed world => frame world ∧ (listed = [] → Vacant compute world) ∧
        ∀ vm ∈ listed, Leased compute vm world := by
  have first : ∀ remaining, maximumU64 - (remaining + 1) = 1 → contract.Does exec thread frame
        (AkamaiClient.listFrom (.label (providerLabel compute))
          (fun vm => vm.label = providerLabel compute) (remaining + 1) [])
        fun listed world => frame world ∧ (listed = [] → Vacant compute world) ∧
          ∀ vm ∈ listed, Leased compute vm world := by
    intro remaining start
    rw [AkamaiClient.listFrom, start]
    refine Does.bind _ (request_reads renting steady (.listInstances (.label (providerLabel compute)) 1) rfl
      (fun (body : ListInstancesResponse) world => (body.pages ≤ 1 ∧
        ((body.data.filter fun vm => vm.label = providerLabel compute) = [] → Vacant compute world) ∧
        ∀ vm ∈ body.data, vm.label = providerLabel compute → Leased compute vm world))
      fun world choice inv _ => ?_) fun body => ?_
    · have fleet := renting.fleet world inv
      obtain ⟨data, pages⟩ := page_label fleet compute
      refine ⟨pages, fun empty vm member labelled => ?_, fun vm member => fleet.leased (mem_page member)⟩
      simp only [Provider.apply, data, Provider.matching, List.filter_filter] at empty
      have unlisted := List.filter_eq_nil_iff.mp empty vm member
      simp [labelled] at unlisted
    · refine Does.ite (fun _ => Does.pure ?_) fun more => ?_
      · rintro world ⟨held, -, vacant, seen⟩
        refine ⟨held, fun empty => vacant (by simpa using empty), fun vm member => ?_⟩
        rw [List.nil_append] at member
        obtain ⟨present, labelled⟩ := List.mem_filter.mp member
        exact seen vm present (by simpa using labelled)
      · intro world held
        exact absurd (max_le held.2.1 (le_refl 1)) more
  obtain ⟨remaining, start⟩ : ∃ remaining, maximumU64 - 1 = remaining + 1 := ⟨maximumU64 - 2, by decide⟩
  unfold AkamaiClient.listAll
  rw [start]
  refine first remaining ?_
  have bound : (2 : Nat) ≤ maximumU64 := by decide
  omega

theorem findInstanceByLabel_finds (compute : ComputeInstanceId) :
    contract.Does exec thread frame (AkamaiClient.findInstanceByLabel (providerLabel compute))
      fun result world => frame world ∧ match result with
        | none => Vacant compute world
        | some vm => Leased compute vm world := by
  refine Does.bind _ (listAll_label renting steady compute) fun listed => ?_
  match listed with
  | [] => exact Does.pure fun world held => ⟨held.1, held.2.1 rfl⟩
  | [vm] => exact Does.pure fun world held => ⟨held.1, held.2.2 vm (by simp)⟩
  | _ :: _ :: _ => exact Does.fail

theorem buildBootstrap_names (remote : RemoteAgentConfig) (scope : String) (found : ServerInstance)
    (compute : ComputeInstance) :
    contract.Does exec thread frame (buildBootstrap remote scope found compute)
      fun bootstrap world => frame world ∧ bootstrap.userData.computeInstanceId = compute.id := by
  have files := files_permitted renting steady
  refine Does.bind _ (readAuthorizedKeys_modest files _).does fun keys => ?_
  refine Does.bind _ (readBoundedFile_modest files _ _).does fun ca => ?_
  refine Does.require fun _ => ?_
  split
  · exact Does.fail
  · exact Does.pure fun _ held => ⟨held, rfl⟩

-- A machine was rented, or the answer was lost, or nothing happened.
omit renting steady in
theorem exec_create_value {request : CreateInstanceRequest} {choice : Choice} {world : World}
    {vm : ProviderInstance}
    (accepted : (exec (.provider (.createInstance request)) choice world).1 = .ok vm) :
    vm = (world.provider.create request choice.answers.ipv4).1 ∧
      (exec (.provider (.createInstance request)) choice world).2 = settleProvider (.createInstance request)
          (world.provider.create request choice.answers.ipv4).2 world ∧
      world.provider.nextId ≤ maximumU64 := by
  simp only [exec, execProvider] at accepted ⊢
  split at accepted
  · cases accepted
  · rename_i room
    rw [if_neg room]
    split at accepted
    · injection accepted with same
      exact ⟨same.symm, rfl, by simpa [Provider.exhausted] using room⟩
    · cases accepted
    · cases accepted

omit renting steady in
theorem created_leased {request : CreateInstanceRequest} {world : World} {ipv4 : List String}
    {compute : ComputeInstanceId} (fleet : Fleet world.provider)
    (bound : world.provider.nextId ≤ maximumU64) (vacant : Vacant compute world)
    (labelled : request.label = providerLabel compute) :
    Leased compute (world.provider.create request ipv4).1
      (settleProvider (.createInstance request) (world.provider.create request ipv4).2 world) := by
  refine ⟨⟨Nat.lt_succ_self _, bound, fun other member same => ?_⟩, labelled, fun other member same => ?_⟩
  · rcases List.mem_append.mp member with old | single
    · have below := fleet.below other old
      simp only [Provider.create] at same
      omega
    · exact List.mem_singleton.mp single
  · rcases List.mem_append.mp member with old | single
    · exact absurd same (vacant other old)
    · exact List.mem_singleton.mp single

section Compute

variable (manager : AkamaiManager) (spec : AkamaiSpec) (found : ServerInstance) (compute : ComputeInstance)
variable (created : ∀ world request choice, contract.Inv world → frame world →
    request.label = providerLabel compute.id → request.userData.computeInstanceId = compute.id →
    frame (exec (.provider (.createInstance request)) choice world).2)
include created

theorem createInstance_labels
    (mayCreate : ∀ world request, contract.Inv world → frame world → Vacant compute.id world →
      request.label = providerLabel compute.id → request.userData.computeInstanceId = compute.id →
      contract.Guard thread (.provider (.createInstance request)) world) :
    contract.Does exec thread (fun world => frame world ∧ Vacant compute.id world)
      (manager.createInstance (providerLabel compute.id) spec found compute)
      fun vm world => frame world ∧ Leased compute.id vm world := by
  have steady' := steady.and (Vacant.stable renting compute.id)
  refine Does.bind _ (Does.ofExcept fun _ _ _ held => held) fun _ => ?_
  have reads := reads_permitted renting steady'
  refine Does.bind _ (verifyBootstrapCompatibility_modest reads _ _).does fun _ => ?_
  refine Does.bind _ (verifyInstanceType_modest reads _).does fun _ => ?_
  refine Does.bind _ (verifyFirewall_modest reads _).does fun _ => ?_
  refine Does.bind _ (listManagedInstances_sights renting steady' _) fun listed => ?_
  refine (Does.require fun _ => ?_).strengthen fun world held => held.1
  refine Does.bind _ (Does.raising (buildBootstrap_names renting steady' _ _ _ _))
    fun bootstrap => Does.given fun named => ?_
  refine Does.bind (fun vm world => frame world ∧ Leased compute.id vm world) ?_ fun vm => ?_
  · refine Does.raising (Triple.perform steady' fun world inv held => ?_)
    refine ⟨mayCreate world _ inv held.1 held.2 rfl named, fun choice vm accepted => ?_⟩
    obtain ⟨same, after, bound⟩ := exec_create_value accepted
    refine ⟨created world _ choice inv held.1 rfl named, ?_⟩
    rw [after, same]
    exact created_leased (renting.fleet world inv) bound held.2 rfl
  · have seen := steady.and (Leased.stable renting compute.id vm)
    refine Does.bind _ (verifyProviderConfiguration_modest (reads_permitted renting seen) vm spec).does fun _ => ?_
    exact Does.pure fun _ held => held

theorem findOrCreateInstance_labels {allowCreate : Bool}
    (mayCreate : allowCreate = true → ∀ world request, contract.Inv world → frame world →
      Vacant compute.id world → request.label = providerLabel compute.id →
      request.userData.computeInstanceId = compute.id →
      contract.Guard thread (.provider (.createInstance request)) world) :
    contract.Does exec thread frame
      (manager.findOrCreateInstance (providerLabel compute.id) spec found compute allowCreate)
      fun vm world => frame world ∧ Leased compute.id vm world := by
  refine Does.bind _ (findInstanceByLabel_finds renting steady compute.id) fun result => ?_
  match result with
  | some vm =>
    have seen := steady.and (Leased.stable renting compute.id vm)
    refine Does.require fun _ => ?_
    refine Does.bind _ (verifyProviderConfiguration_modest (reads_permitted renting seen) vm spec).does fun _ => ?_
    exact Does.pure fun _ held => held
  | none =>
    refine Does.ite (fun _ => Does.fail) fun allowed => ?_
    refine createInstance_labels renting steady manager spec found compute created ?_
    exact mayCreate (by simpa using allowed)

theorem obtainProvider_labels
    (mayCreate : found.dataPreparedAt = none → ∀ world request, contract.Inv world → frame world →
      Vacant compute.id world → request.label = providerLabel compute.id →
      request.userData.computeInstanceId = compute.id →
      contract.Guard thread (.provider (.createInstance request)) world) :
    contract.Does exec thread frame (manager.obtainProvider spec found compute)
      fun vm world => frame world ∧ Leased compute.id vm world := by
  have anew : contract.Does exec thread frame (manager.findOrCreateInstance (providerLabel compute.id)
      spec found compute found.dataPreparedAt.isNone)
      fun vm world => frame world ∧ Leased compute.id vm world :=
    findOrCreateInstance_labels renting steady manager spec found compute created fun unprepared =>
      mayCreate (by simpa using unprepared)
  unfold AkamaiManager.obtainProvider
  dsimp only
  split
  · exact anew
  · split
    · exact Does.fail
    · rename_i providerId parsed
      refine Does.bind _ (request_reads renting steady (.getInstance providerId) rfl
        (fun (current : Option ProviderInstance) world => ∀ vm, current = some vm →
          vm.label = providerLabel compute.id → Leased compute.id vm world)
        fun world choice inv _ vm present labelled =>
          (renting.fleet world inv).leased (find_vm present).1 labelled)
        fun (current : Option ProviderInstance) => ?_
      cases current with
      | none => exact anew.strengthen fun _ held => held.1
      | some vm =>
        refine Does.ite (fun owned => ?_) fun _ => Does.fail
        have seen := steady.and (Leased.stable renting compute.id vm)
        refine (Does.bind _ (verifyProviderConfiguration_modest (reads_permitted renting seen) vm spec).does
          fun _ => ?_).strengthen fun _ held => ⟨held.1, held.2 vm rfl (isOwnedBy_label owned)⟩
        exact Does.pure fun _ held => held

end Compute

def Unlabelled (compute : ComputeInstanceId) (id : Nat) (world : World) : Prop :=
  ∀ vm ∈ world.provider.instances, vm.label = providerLabel compute → vm.id ≠ id

def Target (manager : AkamaiManager) (compute : ComputeInstance) (world : World) : Option Nat → Prop
  | some id => ∃ vm, vm.id = id ∧ vm.isOwnedBy (providerLabel compute.id) manager.tag = true ∧
      Leased compute.id vm world
  | none => Vacant compute.id world ∨ ∃ recorded id, compute.providerInstanceId = some recorded ∧
      Text.parseU64 recorded = some id ∧ Unlabelled compute.id id world

theorem providerToDelete_targets (manager : AkamaiManager) (compute : ComputeInstance) :
    contract.Does exec thread frame (manager.providerToDelete compute)
      fun target world => frame world ∧ Target manager compute world target := by
  unfold AkamaiManager.providerToDelete
  dsimp only
  split
  · rename_i recorded stored
    split
    · exact Does.fail
    · rename_i providerId parsed
      refine Does.bind _ (request_reads renting steady (.getInstance providerId) rfl
        (fun (current : Option ProviderInstance) world =>
          (∀ vm, current = some vm → vm.id = providerId ∧
            (vm.label = providerLabel compute.id → Leased compute.id vm world)) ∧
          (current = none → Unlabelled compute.id providerId world)) fun world choice inv _ => ⟨?_, ?_⟩)
        fun (current : Option ProviderInstance) => ?_
      · intro vm present
        obtain ⟨member, named⟩ := find_vm present
        exact ⟨named, (renting.fleet world inv).leased member⟩
      · intro absent vm member _ same
        simpa [same] using List.find?_eq_none.mp absent vm member
      · cases current with
        | some vm =>
          refine Does.ite (fun owned => Does.pure fun world held => ?_) fun _ => Does.fail
          obtain ⟨named, leased⟩ := held.2.1 vm rfl
          exact ⟨held.1, vm, named, owned, leased (isOwnedBy_label owned)⟩
        | none =>
          exact Does.pure fun world held => ⟨held.1, .inr ⟨recorded, providerId, stored, parsed, held.2.2 rfl⟩⟩
  · refine Does.bind _ (findInstanceByLabel_finds renting steady compute.id) fun result => ?_
    cases result with
    | some vm =>
      refine Does.ite (fun owned => Does.pure ?_) fun _ => Does.fail
      exact fun world held => ⟨held.1, vm, rfl, owned, held.2⟩
    | none => exact Does.pure fun world held => ⟨held.1, .inl held.2⟩

omit steady in
theorem Target.stable (manager : AkamaiManager) (compute : ComputeInstance) (target : Option Nat) :
    contract.Stable thread fun world => Target manager compute world target := by
  intro before after held rely inv
  cases target with
  | none =>
    rcases held with vacant | ⟨recorded, id, stored, parsed, unlabelled⟩
    · exact .inl (Vacant.stable renting compute.id before after vacant rely inv)
    · exact .inr ⟨recorded, id, stored, parsed, labelled_stable renting before after unlabelled rely inv⟩
  | some id =>
    obtain ⟨vm, named, owned, leased⟩ := held
    exact ⟨vm, named, owned, Leased.stable renting compute.id vm before after leased rely inv⟩

end Renting

end McServer.System
