import McServer.System.Worker

set_option autoImplicit false

namespace McServer.System

open Domain Store Agent ControlPlane Interleaving Interleaving.Contract

section Computing

variable {setup : Setup} {policy : Policy setup} {E : Type}

def Unallocated (owner : ServerInstanceId) (world : World) : Prop :=
  ∀ row ∈ world.db.computeInstances, row.serverInstanceId ≠ owner

theorem Unallocated.steady (owner : ServerInstanceId) : Steady setup policy (Unallocated owner) :=
  computes_steady fun old new same free => by
    rw [same.2.1]
    exact free

def Ready (found : ServerInstance) (world : World) : Prop :=
  Current found world ∧ (found.stopRequestedAt = none ∨
    ∃ id provider recorded, Booked id found.id provider recorded world)

theorem Ready.steady (found : ServerInstance) : Steady setup policy (Ready found) := by
  rintro before after ⟨current, wanted⟩ rely inv
  refine ⟨Current.steady found before after current rely inv, wanted.imp_right ?_⟩
  rintro ⟨id, provider, recorded, booked⟩
  exact ⟨id, provider, recorded, Booked.steady id _ provider recorded before after booked rely inv⟩

theorem getActiveCompute_works (found : ServerInstance) (into : RepositoryError → E) :
    Works setup policy (Ready found) (db into (.getActiveCompute found.id))
      fun (existing : Option ComputeInstance) world => Ready found world ∧ match existing with
        | some compute => Assigned compute found.id world
        | none => Unallocated found.id world := by
  refine (lookup_works (Ready.steady found) into (.getActiveCompute found.id) rfl
    (fun (existing : Option ComputeInstance) db =>
      match existing with
      | some compute => ∃ row ∈ db.computeInstances, row.id = compute.id ∧
          row.serverInstanceId = found.id ∧ row.provider = compute.provider ∧
          row.providerInstanceId = compute.providerInstanceId ∧ row.terminatedAt = none
      | none => ∀ row ∈ db.computeInstances, row.serverInstanceId ≠ found.id) ?_).weaken ?_
  · intro world existing inv ready answered
    match existing with
    | some compute =>
      obtain ⟨row, member, owned, running, rfl⟩ := getActiveForInstance_some answered
      exact ⟨row, member, rfl, owned, rfl, rfl, running⟩
    | none =>
      -- A terminated compute would mean that the instance was told to stop.
      intro row member owned
      have gone := getActiveForInstance_none answered
      rcases ready.2 with unstopped | ⟨id, provider, recorded, other, present, -, owned', -, -, running⟩
      · obtain ⟨owner, stored, named, -, stopped⟩ := inv.history.current.allocation.owner row member
        have same := ready.1.unique inv stored (named.trans owned)
        have stop := stopped (gone row member owned)
        rw [same, unstopped] at stop
        cases stop
      · have stop := gone other present owned'
        rw [running] at stop
        cases stop
  · intro existing world held
    match existing with
    | some compute => exact held
    | none => exact held

theorem createForInstance_works {found : ServerInstance} {into : RepositoryError → E}
    {provider : ComputeProvider} {connectionToken : String} {enrollmentToken : Option String}
    {now : UnixTimestampMillis} (token : provider = .akamai → enrollmentToken.isSome)
    (drafted : IsConnectionToken connectionToken ∧
      (∀ token, enrollmentToken = some token → IsConnectionToken token) ∧
        (provider = .localProcess → enrollmentToken = none))
    (remote : provider = .akamai → found.resolvedSpec.compute ≠ .local) :
    Works setup policy (fun world => Ready found world ∧ Unallocated found.id world)
      (createForInstance into found.id provider connectionToken enrollmentToken now)
      fun created world => ∀ compute, created = some compute →
        (Current found world ∧ Assigned compute found.id world) ∧ compute.provider = provider := by
  have steady : Steady setup policy fun world => Ready found world ∧ Unallocated found.id world :=
    (Ready.steady found).and (Unallocated.steady found.id)
  refine Does.bind _ (newUuid_works steady) fun uuid => ?_
  refine Does.bind (fun inserted world => inserted = true →
    Current found world ∧ Booked ⟨uuid⟩ found.id provider none world) ?_ fun (inserted : Bool) => ?_
  · refine Does.raising (Triple.perform steady fun world inv held => ?_)
    have placed : provider = .akamai → ∀ other ∈ world.db.serverInstances, other.id = found.id →
        other.resolvedSpec.compute ≠ .local := by
      intro there other stored same
      rw [held.1.1.unique inv stored same]
      exact remote there
    refine ⟨⟨⟨fun row member owned => absurd owned (held.2 row member), token⟩, trivial,
      drafted.1, drafted.2.1, drafted.2.2, placed⟩, fun choice value accepted wanted => ?_⟩
    obtain ⟨answered, after⟩ := exec_db_value accepted
    rw [after]
    rcases insertForInstance_cases ⟨uuid⟩ found.id provider connectionToken enrollmentToken now
        world.db with ⟨result, failed, other⟩ |
      ⟨row, named, owned, sort, unrecorded, running, -, -, -, -, -, -, done⟩
    · simp only [DbOp.query, failed] at answered
      exact absurd (answered.trans (congrArg Except.ok wanted)) other
    · simp only [applied, World.store, World.note, DbOp.query, done]
      exact ⟨held.1.1, row, List.mem_append_right _ (List.mem_singleton.mpr rfl), named, owned, sort,
        unrecorded, running⟩
  · cases inserted with
    | false => exact Does.pure (by rintro _ _ _ ⟨⟩)
    | true =>
      have booked : Steady setup policy fun world =>
          Current found world ∧ Booked ⟨uuid⟩ found.id provider none world :=
        (Current.steady found).and (Booked.steady _ _ _ _)
      refine ((lookup_works booked into (.getCompute ⟨uuid⟩) rfl
        (fun (refreshed : Option ComputeInstance) _ => ∀ compute, refreshed = some compute →
          compute.id = ⟨uuid⟩ ∧ compute.provider = provider ∧ compute.providerInstanceId = none)
        ?_).weaken ?_).strengthen fun world held => held rfl
      · rintro world refreshed inv ⟨-, row, member, named, -, sort, unrecorded, -⟩ answered compute rfl
        obtain ⟨other, present, named', rfl⟩ := getCompute_some answered
        have same := inv.history.current.keyed.computeIds.eq_of_key present member (named'.trans named.symm)
        rw [same]
        exact ⟨named, sort, unrecorded⟩
      · rintro refreshed world ⟨⟨current, held⟩, read⟩ compute present
        obtain ⟨named, sort, unrecorded⟩ := read compute present
        refine ⟨⟨current, ?_⟩, sort⟩
        rw [Assigned, named, sort, unrecorded]
        exact held

def Ensured (found : ServerInstance) (compute : ComputeInstance) (world : World) : Prop :=
  Current found world ∧ Anchored compute.id found.id world

theorem Ensured.steady (found : ServerInstance) (compute : ComputeInstance) :
    Steady setup policy (Ensured found compute) :=
  (Current.steady found).and (Anchored.steady compute.id found.id)

theorem getCompute_same {frame : World → Prop} (steady : Steady setup policy frame)
    (compute : ComputeInstanceId) (into : RepositoryError → E) :
    Works setup policy frame (db into (.getCompute compute))
      fun (refreshed : Option ComputeInstance) world => frame world ∧
        ∀ current, refreshed = some current → current.id = compute := by
  refine lookup_works steady into (.getCompute compute) rfl
    (fun (refreshed : Option ComputeInstance) _ => ∀ current, refreshed = some current →
      current.id = compute) ?_
  rintro world refreshed inv - answered current rfl
  obtain ⟨row, -, named, rfl⟩ := getCompute_some answered
  exact named

section Akamai

variable (manager : AkamaiManager)

theorem akamai_obtainCompute_works (found : ServerInstance) (now : UnixTimestampMillis)
    (remote : found.resolvedSpec.compute ≠ .local) :
    Works setup policy (Ready found) (manager.obtainCompute found now)
      fun result world => (Current found world ∧ Assigned result.1 found.id world) ∧
        result.1.provider = .akamai := by
  refine Does.bind _ (getActiveCompute_works found AkamaiComputeError.repository)
    fun (existing : Option ComputeInstance) => ?_
  match existing with
  | some compute =>
    refine Does.ite (fun there => Does.pure ?_) fun _ => Does.fail
    exact fun world held => ⟨⟨held.1.1, held.2⟩, there⟩
  | none =>
    have steady : Steady setup policy fun world => Ready found world ∧ Unallocated found.id world :=
      (Ready.steady found).and (Unallocated.steady found.id)
    refine Does.bind _ (Does.ofExcept fun _ _ _ held => held) fun _ => ?_
    refine Does.bind _ (newConnectionToken_works steady) fun connectionToken => ?_
    refine Does.given fun connection => ?_
    refine Does.bind _ (newConnectionToken_works steady) fun enrollmentToken => ?_
    refine Does.given fun enrollment => ?_
    refine Does.bind _ (createForInstance_works (fun _ => rfl) ⟨connection,
      fun token same => Option.some.inj same ▸ enrollment, nofun⟩
      fun _ => remote) fun created => ?_
    match created with
    | none => exact Does.fail
    | some compute => exact Does.pure fun world held => held compute rfl

variable {found : ServerInstance} {compute : ComputeInstance}

theorem mayRent {world : World} (inv : Inv setup policy world) (current : Current found world)
    (assigned : Assigned compute found.id world) (remote : compute.provider = .akamai)
    (unprepared : found.dataPreparedAt = none) (vacant : Vacant compute.id world)
    {request : CreateInstanceRequest} (labelled : request.label = providerLabel compute.id)
    (user : request.userData.computeInstanceId = compute.id) :
    workerRequest world (.createInstance request) := by
  obtain ⟨row, member, named, owned, sort, -⟩ := assigned
  refine ⟨compute.id, labelled, user, vacant, row, member, named, sort.trans remote, ?_⟩
  intro other stored same
  rw [current.unique inv stored (same.trans owned)]
  exact unprepared

theorem assigned_steady (found : ServerInstance) (compute : ComputeInstance) :
    Steady setup policy fun world => Current found world ∧ Assigned compute found.id world :=
  (Current.steady found).and (Booked.steady _ _ _ _)

theorem obtainProvider_works (spec : AkamaiSpec) (remote : compute.provider = .akamai) :
    Works setup policy (fun world => Current found world ∧ Assigned compute found.id world)
      (manager.obtainProvider spec found compute)
      fun vm world => (Current found world ∧ Assigned compute found.id world) ∧ Leased compute.id vm world := by
  have steady := @assigned_steady setup policy found compute
  refine obtainProvider_labels worker_rents steady manager spec found compute ?_ ?_
  · intro world request choice _ held _ _
    have same : (exec (.provider (.createInstance request)) choice world).2.db = world.db := by
      simp only [exec, execProvider]
      split
      · rfl
      · split <;> rfl
    rw [Current, Assigned, Booked, same]
    exact held
  · intro unprepared world request inv held vacant labelled user
    exact mayRent inv held.1 held.2 remote unprepared vacant labelled user

theorem recordProvider_works (vm : ProviderInstance) :
    Works setup policy (fun world => (Current found world ∧ Assigned compute found.id world) ∧
        Leased compute.id vm world) (AkamaiManager.recordProvider compute vm)
      fun recorded world => recorded = false → Ensured found compute world := by
  have steady : Steady setup policy fun world =>
      (Current found world ∧ Assigned compute found.id world) ∧ Leased compute.id vm world :=
    (assigned_steady found compute).and (Leased.stable worker_rents _ _)
  refine Does.ite (fun known => Does.pure ?_) fun _ => ?_
  · rintro world ⟨⟨current, assigned⟩, leased⟩ -
    refine ⟨current, _, _, assigned, fun _ other member labelled => ?_⟩
    rw [known.1, leased.sole other member labelled]
  · refine Does.bind _ (clock_works steady _) fun observedAt => ?_
    refine Does.bind _ (final_works steady _ _ fun world inv held => ?_) fun (recorded : Bool) => ?_
    · refine ⟨trivial, fun row _ _ other _ _ _ machine present labelled => ?_, vm,
        held.2.sighted.bounded, rfl, rfl⟩
      rw [held.2.sole machine present labelled]
    · exact Does.ite (fun _ => Does.pure nofun) fun _ => Does.fail

theorem akamai_ensureForInstance_works (found : ServerInstance) (now : UnixTimestampMillis) :
    Works setup policy (Ready found) (manager.ensureForInstance found now)
      fun result world => result.2 = false → Ensured found result.1 world := by
  unfold AkamaiManager.ensureForInstance
  split
  · exact Does.fail
  · rename_i region instanceType image firewallId rented
    have distant : found.resolvedSpec.compute ≠ .local := by simp [rented]
    refine Does.bind _ (Does.ofExcept fun _ _ _ held => held) fun _ => ?_
    refine Does.bind _ (akamai_obtainCompute_works manager found now distant) ?_
    rintro ⟨compute, created⟩
    refine Does.given fun remote => ?_
    refine Does.bind _ (obtainProvider_works manager _ remote) fun vm => ?_
    refine Does.bind _ (recordProvider_works vm) fun recorded => ?_
    cases recorded with
    | true =>
      refine (Does.bind _ (getCompute_same (Contract.Stable.const True) compute.id _)
        fun (refreshed : Option ComputeInstance) => ?_).strengthen fun _ _ => trivial
      match refreshed with
      | none => exact Does.fail
      | some current => exact Does.pure fun _ _ changed => by simp at changed
    | false =>
      refine (Does.bind _ (getCompute_same (Ensured.steady found compute) compute.id _)
        fun (refreshed : Option ComputeInstance) => ?_).strengthen fun _ held => held rfl
      match refreshed with
      | none => exact Does.fail
      | some current =>
        refine Does.pure fun world held _ => ?_
        rw [Ensured, held.2 current rfl]
        exact held.1

end Akamai

section Local

variable {frame : World → Prop} (steady : Steady setup policy frame) (manager : LocalManager)

include steady

theorem looks_permitted (op : LocalOp) (look : isLook op = true) :
    (Watch.ofContract (contract setup policy) .worker).Permits exec frame (.machine op) := by
  refine Watch.permits_of_triple (calm_keeps steady (.machine op) rfl fun world _ _ => ?_)
  cases op <;> trivial

theorem begins_permitted {compute : ComputeInstanceId} (onRecord : ∀ world, frame world →
      ∃ row ∈ world.db.computeInstances, row.id = compute ∧ row.provider = .localProcess)
    (op : LocalOp) (begin : begins compute op = true) :
    (Watch.ofContract (contract setup policy) .worker).Permits exec frame (.machine op) := by
  refine Watch.permits_of_triple (calm_keeps steady (.machine op) rfl fun world _ held => ?_)
  cases op with
  | createStateDirectory other =>
    obtain rfl : other = compute := eq_of_beq begin
    exact onRecord world held
  | removeStateDirectory other => cases begin
  | _ => trivial

omit steady

theorem local_obtainCompute_works (found : ServerInstance) (now : UnixTimestampMillis) :
    Works setup policy (Ready found) (LocalManager.obtainCompute found now)
      fun result world => (Current found world ∧ Assigned result.1 found.id world) ∧
        result.1.provider = .localProcess := by
  refine Does.bind _ (getActiveCompute_works found LocalComputeError.repository)
    fun (existing : Option ComputeInstance) => ?_
  match existing with
  | some compute =>
    refine Does.ite (fun here => Does.pure ?_) fun _ => Does.fail
    exact fun world held => ⟨⟨held.1.1, held.2⟩, here⟩
  | none =>
    have steady : Steady setup policy fun world => Ready found world ∧ Unallocated found.id world :=
      (Ready.steady found).and (Unallocated.steady found.id)
    refine Does.bind _ (newConnectionToken_works steady) fun connectionToken => ?_
    refine Does.given fun connection => ?_
    refine Does.bind _ (createForInstance_works nofun ⟨connection, nofun, fun _ => rfl⟩ nofun) fun created => ?_
    match created with
    | none => exact Does.fail
    | some compute => exact Does.pure fun world held => held compute rfl

theorem local_ensureForInstance_works (found : ServerInstance) (now : UnixTimestampMillis) :
    Works setup policy (Ready found) (manager.ensureForInstance found now)
      fun result world => result.2 = false → Ensured found result.1 world := by
  refine Does.bind _ (local_obtainCompute_works found now) ?_
  rintro ⟨compute, created⟩
  refine Does.given fun here => ?_
  have steady := @assigned_steady setup policy found compute
  refine Does.bind (fun _ world => Current found world ∧ Assigned compute found.id world) ?_ fun spawned => ?_
  · refine (ensureProcess_modest (looks_permitted steady) manager (begins_permitted steady ?_)
      (Watch.permits_of_triple (calm_keeps steady .clock rfl fun _ _ _ => trivial))
      fun processId now => Watch.permits_of_triple (calm_keeps steady
        (.db (.recordProcessId compute.id processId now)) rfl fun _ _ _ => ⟨trivial, trivial, trivial⟩)).does
    rintro world ⟨-, row, member, named, -, sort, -⟩
    exact ⟨row, member, named, sort.trans here⟩
  · refine Does.bind _ (getCompute_same steady compute.id _) fun (refreshed : Option ComputeInstance) => ?_
    match refreshed with
    | none => exact Does.fail
    | some current =>
      refine Does.pure fun world held _ => ?_
      rw [Ensured, held.2 current rfl]
      refine ⟨held.1.1, _, _, held.1.2, fun remote => ?_⟩
      rw [here] at remote
      cases remote

end Local

structure Attached (found : ServerInstance) (compute : ComputeInstanceId) (world : World) : Prop where
  current : Current found world
  allocated : Allocated world.db compute found.id

section Attached

variable {found : ServerInstance}

theorem Attached.steady (found : ServerInstance) (compute : ComputeInstanceId) :
    Steady setup policy (Attached found compute) := by
  rintro before after ⟨current, allocated⟩ rely inv
  exact ⟨Current.steady found before after current rely inv, allocated.evolved rely.1.persists.evolved⟩

theorem Attached.expendable {compute : ComputeInstanceId} {world : World}
    (inv : Inv setup policy world) (attached : Attached found compute world)
    (stop : found.stopRequestedAt.isSome) (published : ReconcileWorker.unpublished found = false) :
    Expendable world compute :=
  ⟨found.id, attached.allocated, spared_of_published inv attached.current stop published⟩

theorem Attached.issuable {compute : ComputeInstanceId} {world : World}
    (inv : Inv setup policy world) (attached : Attached found compute world)
    (stop : found.stopRequestedAt.isSome) (published : ReconcileWorker.unpublished found = false)
    {result : ComputeTerminalResult} {now : UnixTimestampMillis} :
    Issuable setup policy world (.terminateCompute compute result none now) := by
  refine ⟨fun row member named other stored owner => ?_, attached.expendable inv stop published, rfl⟩
  have owned : row.serverInstanceId = found.id :=
    Allocated.unique inv.history.current.keyed ⟨row, member, named, rfl⟩ attached.allocated
  rw [attached.current.unique inv stored (owner.trans owned)]
  exact stop

theorem requestNodeShutdown_works (compute : ComputeInstanceId) : Works setup policy (Attached found compute)
      (AkamaiManager.requestNodeShutdown compute : Flow E Unit) fun _ => Attached found compute := by
  have steady : Steady setup policy (Attached found compute) := Attached.steady found compute
  refine Does.bind _ (isConnected_works steady compute) fun connected => ?_
  refine Does.ite (fun _ => ?_) fun _ => Does.pure fun _ held => held
  refine Does.lift (Triple.bind _ (call_keeps steady fun world _ held => ?_)
    fun _ => Triple.done fun _ held => held)
  exact ⟨⟨found, held.current, held.allocated, trivial, trivial⟩, nofun⟩

variable {compute : ComputeInstance} (stop : found.stopRequestedAt.isSome)
  (published : ReconcileWorker.unpublished found = false)

include stop published

theorem deleteProvider_works (manager : AkamaiManager) (target : Option Nat) : Works setup policy
      (fun world => Attached found compute.id world ∧ Target manager compute world target)
      (AkamaiManager.deleteProvider target) fun _ => Attached found compute.id := by
  cases target with
  | none => exact Does.pure fun _ held => held.1
  | some id =>
    have steady := (Attached.steady found compute.id).and
      (Target.stable (@worker_rents setup policy) manager compute (some id))
    refine (Does.raising ((calm_keeps steady (.provider (.deleteInstance id)) rfl
      fun world inv held => ?_).weaken fun _ _ held _ _ => held)).weaken fun _ _ held => held.1
    obtain ⟨attached, target, rfl, -, leased⟩ := held
    intro vm member same data provisioned
    refine .inl ?_
    have label := inv.fleet.tenant vm member data provisioned
    rw [leased.sighted.only vm member same, leased.label] at label
    rw [← providerLabel_injective label]
    exact attached.expendable inv stop published

theorem akamai_delete_works (manager : AkamaiManager) :
    Works setup policy (Attached found compute.id) (manager.delete compute) fun _ _ => True := by
  have steady : Steady setup policy (Attached found compute.id) := Attached.steady found compute.id
  refine Does.require fun _ => ?_
  refine Does.bind _ (clock_works steady _) fun now => ?_
  refine Does.bind _ (update_works steady _ (.requestShutdown compute.id now) rfl
    fun _ _ _ => ⟨trivial, trivial, trivial⟩) fun _ => ?_
  refine Does.bind _ (requestNodeShutdown_works compute.id) fun _ => ?_
  refine Does.bind _ (providerToDelete_targets worker_rents steady manager compute) fun target => ?_
  refine Does.bind _ (deleteProvider_works stop published manager target) fun _ => ?_
  refine Does.bind _ (clock_works steady _) fun deletedAt => ?_
  exact final_works steady _ _ fun world inv held => held.issuable inv stop published

theorem local_delete_works (manager : LocalManager) :
    Works setup policy (Attached found compute.id) (manager.delete compute) fun _ _ => True := by
  have steady : Steady setup policy (Attached found compute.id) := Attached.steady found compute.id
  refine Does.bind _ (clock_works steady _) fun now => ?_
  refine Does.bind _ (update_works steady _ (.requestShutdown compute.id now) rfl
    fun _ _ _ => ⟨trivial, trivial, trivial⟩) fun _ => ?_
  refine Does.bind _ (requestNodeShutdown_works compute.id) fun _ => ?_
  refine Does.bind _ (waitForExit_modest (looks_permitted steady) manager compute).does fun _ => ?_
  refine Does.bind _ (machine_works steady fun world inv held => held.expendable inv stop published) fun _ => ?_
  refine Does.bind _ (clock_works steady _) fun deletedAt => ?_
  exact final_works steady _ _ fun world inv held => held.issuable inv stop published

theorem delete_works (manager : ComputeManager) :
    Works setup policy (Attached found compute.id) (manager.delete compute) fun _ _ => True := by
  unfold ComputeManager.delete
  split
  · exact Does.raising (local_delete_works stop published manager.localProcess)
  · split
    · exact Does.fail
    · exact Does.raising (akamai_delete_works stop published _)

end Attached

theorem ensureForInstance_works (manager : ComputeManager) (found : ServerInstance)
    (now : UnixTimestampMillis) :
    Works setup policy (Ready found) (manager.ensureForInstance found now)
      fun result world => result.2 = false → Ensured found result.1 world := by
  unfold ComputeManager.ensureForInstance
  split
  · exact Does.raising (local_ensureForInstance_works manager.localProcess found now)
  · split
    · exact Does.fail
    · exact Does.raising (akamai_ensureForInstance_works _ found now)

end Computing

end McServer.System
