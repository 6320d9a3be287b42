import McServer.System.Orphans

set_option autoImplicit false

namespace McServer.System

open Domain Store Agent ControlPlane Interleaving Interleaving.Contract
open ReconcileWorker

section Reconciling

variable {setup : Setup} {policy : Policy setup}

theorem allocated_exec {compute : ComputeInstanceId} {id : ServerInstanceId} {op : Op} {world : World}
    (inv : Inv setup policy world) (guard : workerGuard setup policy world op)
    (allocated : Allocated world.db compute id) (choice : Choice) :
    Allocated (exec op choice world).2.db compute id := by
  have after := worker_keeps inv guard choice
  have member : world.db ∈ (exec op choice world).2.past :=
    (exec_extends world choice op).past.subset (List.mem_of_mem_head? inv.history.newest)
  exact allocated.evolved (after.history.since member)

variable {found : ServerInstance} {compute : ComputeInstance}

theorem Attached.sendable {world : World} (attached : Attached found compute.id world)
    {command : Command} (fit : fits found command) (isReady : ready world found command)
    (quiet : ∀ id, startsInstance id command = true → ¬ StopRequested world.db id) :
    Sendable world compute.id command :=
  ⟨⟨found, attached.current, attached.allocated, fit, isReady⟩, quiet⟩

variable {server : Server} {frame : World → Prop}

theorem inspect_works (steady : Steady setup policy frame)
    (attached : ∀ world, frame world → Attached found compute.id world) :
    Works setup policy frame (inspect found compute)
      fun observed world => frame world ∧ ∀ snapshotId, observed.lastSnapshotId = some snapshotId →
        Made world compute.id snapshotId := by
  have sendable : ∀ world, frame world → Sendable world compute.id (.inspect (identity found)) :=
    fun world held => (attached world held).sendable rfl trivial nofun
  refine (request_works steady fun world _ held => sendable world held).weaken ?_
  rintro observed world ⟨held, result, accepted, answered⟩
  refine ⟨held, ?_⟩
  cases result with
  | inspected result =>
    injection accepted with same
    rw [← same]
    exact answered
  | _ => cases accepted

theorem persistObservations_works (steady : Steady setup policy frame)
    (anchored : ∀ world, Inv setup policy world → frame world → Anchored compute.id found.id world)
    (observed : AgentInspectResult) (observedAt : UnixTimestampMillis) :
    Works setup policy frame (persistObservations found observed observedAt)
      fun persisted world => persisted = false →
        frame world ∧ (observed.dataPrepared = true → found.dataPreparedAt.isSome) := by
  refine Does.ite (fun _ => ?_) fun known => ?_
  · refine Does.bind _ (final_works steady _ (.markDataPrepared found.id observedAt)
      fun world inv held => (anchored world inv held).issuable inv observedAt) fun _ => ?_
    exact Does.pure nofun
  · refine Does.ite (fun _ => ?_) fun _ => Does.pure fun world held _ => ⟨held, ?_⟩
    · refine Does.bind _ (final_works steady _ (.observeProcess found.id observed.processRunning observedAt)
        fun _ _ _ => ⟨trivial, trivial, trivial⟩) fun _ => ?_
      exact Does.pure nofun
    · intro prepared
      simpa [prepared, Option.isSome_iff_ne_none] using known

theorem inspectAndPersist_works (steady : Steady setup policy frame)
    (attached : ∀ world, frame world → Attached found compute.id world)
    (anchored : ∀ world, Inv setup policy world → frame world → Anchored compute.id found.id world) :
    Works setup policy frame (inspectAndPersist found compute)
      fun result world => result.2 = false → (frame world ∧ ∀ snapshotId,
        result.1.lastSnapshotId = some snapshotId → Made world compute.id snapshotId) ∧
        (result.1.dataPrepared = true → found.dataPreparedAt.isSome) := by
  refine Does.bind _ (inspect_works steady attached) fun observed => ?_
  refine Does.require fun _ => ?_
  have steady' : Steady setup policy fun world => frame world ∧ ∀ snapshotId,
      observed.lastSnapshotId = some snapshotId → Made world compute.id snapshotId := by
    rintro before after ⟨held, made⟩ rely inv
    exact ⟨steady before after held rely inv, fun snapshotId last =>
      Made.steady compute.id snapshotId before after (made snapshotId last) rely inv⟩
  refine Does.bind _ (clock_works steady' _) fun observedAt => ?_
  refine Does.bind _ (persistObservations_works steady'
    (fun world inv held => anchored world inv held.1) observed observedAt) fun persisted => ?_
  exact Does.pure fun _ held => held

def Loaded (server : Server) (world : World) : Prop :=
  ∃ state ∈ world.past, ∃ row ∈ state.servers, row.toServer = server

theorem Loaded.extended {before after : World} (loaded : Loaded server before)
    (extended : Extends before after) : Loaded server after := by
  obtain ⟨state, member, found⟩ := loaded
  exact ⟨state, extended.past.subset member, found⟩

theorem Loaded.steady (server : Server) : Steady setup policy (Loaded server) :=
  fun _ _ loaded rely _ => loaded.extended rely.2

theorem stopForLifetime_works {provisionedAt : UnixTimestampMillis} (running : server.desiredState = .running) :
    Works setup policy (Loaded server) (stopForLifetime server provisionedAt) fun _ _ => True := by
  unfold stopForLifetime
  refine Does.bind (fun _ world => Loaded server world ∧
    (server.setDesiredState .stopped provisionedAt).1 = .ok true) ?_ fun _ => ?_
  · refine Does.raising (Does.ofExcept fun changed accepted _ loaded => ?_)
    rcases Server.setDesiredState_ok accepted with ⟨-, -, stopped⟩ | ⟨rfl, -⟩
    · rw [running] at stopped
      cases stopped
    · exact ⟨loaded, accepted⟩
  · refine Does.given fun changed => ?_
    have bumped : (server.setDesiredState .stopped provisionedAt).2.generation = server.generation + 1 := by
      rcases Server.setDesiredState_ok changed with ⟨different, -⟩ | ⟨-, -, -, written⟩
      · cases different
      · rw [written]
    refine Does.bind _ (final_works (Loaded.steady server) _ _ ?_) fun _ => Does.pure fun _ held => held
    rintro world - ⟨state, member, row, stored, rfl⟩
    exact ⟨bumped, trivial, state, member, row, stored, rfl, .stopped, provisionedAt, changed, rfl⟩

theorem restore_works (owner : server.id = found.serverId) :
    Works setup policy (fun world => Attached found compute.id world ∧ Anchored compute.id found.id world)
      (restore server found compute) fun _ _ => True := by
  have steady : Steady setup policy fun world =>
      Attached found compute.id world ∧ Anchored compute.id found.id world :=
    (Attached.steady found compute.id).and (Anchored.steady compute.id found.id)
  refine Does.bind _ (request_keeps steady fun world _ held =>
    held.1.sendable (by rw [fits, owner]) trivial nofun) fun _ => ?_
  refine Does.bind _ (clock_works steady _) fun preparedAt => ?_
  refine Does.bind _ (final_works steady _ (.markDataPrepared found.id preparedAt)
    fun world inv held => held.2.issuable inv preparedAt) fun _ => ?_
  exact Does.pure fun _ held => held

theorem start_works (running : found.stopRequestedAt = none) (prepared : found.dataPreparedAt.isSome) :
    Works setup policy (Attached found compute.id) (start found compute) fun _ _ => True := by
  have steady := @Attached.steady setup policy found compute.id
  refine Does.bind _ (request_keeps steady fun world inv held =>
    held.sendable rfl prepared fun id starts => ?_) fun _ => ?_
  · rintro ⟨row, member, named, stopped⟩
    have same : found.id = id := by
      exact instanceId_of_uuid (of_decide_eq_true starts)
    rw [held.current.unique inv member (named.trans same.symm), running] at stopped
    cases stopped
  · refine Does.bind _ (clock_works steady _) fun startedAt => ?_
    refine Does.bind _ (final_works steady _ (.observeProcess found.id true startedAt)
      fun _ _ _ => ⟨trivial, trivial, trivial⟩) fun _ => ?_
    exact Does.pure fun _ held => held

theorem reconcileRunning_works (manager : ComputeManager)
    (running : found.stopRequestedAt = none) (wanted : server.desiredState = .running)
    (owner : server.id = found.serverId) :
    Works setup policy (fun world => Current found world ∧ Loaded server world)
      (reconcileRunning manager server found) fun _ _ => True := by
  refine Does.bind _ (clock_works ((Current.steady found).and (Loaded.steady server)) _) fun provisionedAt => ?_
  have ensured := Does.frame (Loaded.steady server)
    (fun op choice world _ _ loaded => loaded.extended (exec_extends world choice op))
    (@ensureForInstance_works setup policy manager found provisionedAt)
  refine Does.bind _ ((Does.raising ensured).strengthen fun world held => ⟨⟨held.1, .inl running⟩, held.2⟩) ?_
  rintro ⟨compute, changed⟩
  refine Does.ite (fun _ => Does.pure fun _ _ => trivial) fun unchanged => ?_
  have attached : ∀ world, Ensured found compute world → Attached found compute.id world :=
    fun world held => ⟨held.1, held.2.allocated⟩
  have steady : Steady setup policy (Ensured found compute) := Ensured.steady found compute
  refine Does.ite (fun _ => (stopForLifetime_works wanted).strengthen fun _ held => held.2) fun _ => ?_
  refine Does.strengthen ?_ fun world
    (held : (changed = false → Ensured found compute world) ∧ Loaded server world) =>
    held.1 (by simpa using unchanged)
  refine Does.bind _ (isConnected_works steady compute.id) fun connected => ?_
  refine Does.ite (fun _ => Does.pure fun _ _ => trivial) fun _ => ?_
  refine Does.bind _ (inspectAndPersist_works steady attached fun _ _ held => held.2) ?_
  rintro ⟨observed, persisted⟩
  refine Does.ite (fun _ => Does.pure fun _ _ => trivial) fun settled => ?_
  refine Does.strengthen (Does.given
    fun (prepared : observed.dataPrepared = true → found.dataPreparedAt.isSome) => ?_) fun world held => held (by simpa using settled)
  refine Does.ite (fun _ => (restore_works owner).strengthen fun world held =>
    ⟨attached world held.1, held.1.2⟩) fun restored => ?_
  refine Does.ite (fun _ => (start_works running (prepared (by simpa using restored))).strengthen
    fun world held => attached world held.1) fun _ => Does.pure fun _ _ => trivial

theorem stopProcess_works :
    Works setup policy (Attached found compute.id) (stopProcess found compute) fun _ _ => True := by
  have steady := @Attached.steady setup policy found compute.id
  refine Does.bind _ (request_keeps steady fun world _ held => held.sendable rfl trivial nofun) fun _ => ?_
  refine Does.bind _ (clock_works steady _) fun stoppedAt => ?_
  refine Does.bind _ (final_works steady _ (.observeProcess found.id false stoppedAt)
    fun _ _ _ => ⟨trivial, trivial, trivial⟩) fun _ => ?_
  exact Does.pure fun _ held => held

theorem commit_works (snapshotId : String) : Works setup policy
      (fun world => Attached found compute.id world ∧ Made world compute.id snapshotId)
      (commit found snapshotId) fun _ _ => True := by
  have steady : Steady setup policy fun world =>
      Attached found compute.id world ∧ Made world compute.id snapshotId :=
    (Attached.steady found compute.id).and (Made.steady compute.id snapshotId)
  refine Does.bind _ (clock_works steady _) fun committedAt => ?_
  refine Does.bind _ (final_works steady _
    (.commitSnapshot found.id found.fencingToken snapshotId committedAt) ?_)
    fun _ => Does.pure fun _ held => held
  rintro world inv ⟨attached, id, allocated, provenance⟩
  refine ⟨trivial, ?_, trivial⟩
  rwa [Allocated.unique inv.history.current.keyed allocated attached.allocated] at provenance

theorem publish_works {lastSnapshotId : Option String}
    (stop : found.stopRequestedAt.isSome) (owner : server.id = found.serverId) :
    Works setup policy (fun world => Attached found compute.id world ∧ ∀ snapshotId,
        lastSnapshotId = some snapshotId → Made world compute.id snapshotId)
      (publish server found compute lastSnapshotId) fun _ _ => True := by
  cases lastSnapshotId with
  | some snapshotId =>
    exact (commit_works snapshotId).strengthen fun world held => ⟨held.1, held.2 snapshotId rfl⟩
  | none =>
    have steady := @Attached.steady setup policy found compute.id
    refine Does.bind (fun snapshotId world =>
        Attached found compute.id world ∧ Made world compute.id snapshotId) ?_
      fun snapshotId => commit_works snapshotId
    have sendable : ∀ world, Attached found compute.id world → Sendable world compute.id
        (.snapshotData { identity := identity found, serverId := server.id.uuid
                         repository := found.resolvedSpec.data.repository }) :=
      fun world held => held.sendable (by rw [fits, owner]) stop nofun
    refine ((request_works steady fun world _ held => sendable world held).weaken ?_).strengthen
      fun world held => held.1
    rintro snapshotId world ⟨held, result, accepted, answered⟩
    cases result with
    | snapshot made =>
      injection accepted with same
      rw [← same]
      exact ⟨held, answered⟩
    | _ => cases accepted

theorem deleteCompute_works (manager : ComputeManager) (stop : found.stopRequestedAt.isSome)
    (published : unpublished found = false) :
    Works setup policy (Attached found compute.id) (deleteCompute manager compute) fun _ _ => True := by
  refine Does.bind _ (Does.raising (delete_works stop published manager))
    fun deleted => Does.pure fun _ held => held

theorem cleanUp_works (manager : ComputeManager) (stop : found.stopRequestedAt.isSome)
    (published : unpublished found = false) :
    Works setup policy (Attached found compute.id) (cleanUp manager found compute) fun _ _ => True := by
  have steady := @Attached.steady setup policy found compute.id
  refine Does.bind _ (request_keeps steady fun world inv held => held.sendable rfl
    (spared_of_published inv held.current stop published) nofun)
    fun changed => ?_
  exact Does.ite (fun _ => Does.pure fun _ _ => trivial) fun _ => deleteCompute_works manager stop published

theorem stopConnected_works (manager : ComputeManager)
    (stop : found.stopRequestedAt.isSome) (owner : server.id = found.serverId) :
    Works setup policy (fun world => Current found world ∧ Assigned compute found.id world)
      (stopConnected manager server found compute) fun _ _ => True := by
  have steady := @assigned_steady setup policy found compute
  refine Does.bind _ (clock_works steady _) fun provisionedAt => ?_
  -- Ensuring may write the compute's row, but it still belongs to the instance.
  have ensured := Does.frame (Allocated.steady compute.id found.id)
    (fun op choice world inv guard allocated => allocated_exec inv guard allocated choice)
    (@ensureForInstance_works setup policy manager found provisionedAt)
  refine Does.bind _ ((Does.raising ensured).strengthen fun world held =>
    ⟨⟨held.1, .inr ⟨_, _, _, held.2⟩⟩, held.2.allocated⟩) ?_
  rintro ⟨refreshed, changed⟩
  refine Does.ite (fun _ => Does.pure fun _ _ => trivial) fun unchanged => ?_
  refine Does.strengthen ?_ fun world held =>
    (⟨held.1 (by simpa using unchanged), held.2⟩ :
      Ensured found refreshed world ∧ Allocated world.db compute.id found.id)
  have steady' : Steady setup policy fun world =>
      Ensured found refreshed world ∧ Allocated world.db compute.id found.id :=
    (Ensured.steady found refreshed).and (Allocated.steady compute.id found.id)
  have attached : ∀ world, Ensured found refreshed world ∧ Allocated world.db compute.id found.id →
      Attached found compute.id world := fun world held => ⟨held.1.1, held.2⟩
  refine Does.bind _ (isConnected_works steady' compute.id) fun connected => ?_
  refine Does.ite (fun _ => Does.pure fun _ _ => trivial) fun _ => ?_
  refine Does.bind _ (inspectAndPersist_works steady' attached fun world inv held => ?_) ?_
  · rw [← Allocated.single inv.history.current.allocation held.1.2.allocated held.2]
    exact held.1.2
  rintro ⟨observed, persisted⟩
  refine Does.ite (fun _ => Does.pure fun _ _ => trivial) fun settled => ?_
  refine Does.strengthen ?_ fun world held => (held (by simpa using settled)).1
  refine Does.ite (fun _ => stopProcess_works.strengthen fun world held => attached world held.1) fun _ => ?_
  refine Does.ite (fun _ => (publish_works stop owner).strengthen fun world held =>
    ⟨attached world held.1, held.2⟩) fun published => ?_
  exact (cleanUp_works manager stop (by simpa using published)).strengthen fun world held =>
    attached world held.1

def Released (owner : ServerInstanceId) (world : World) : Prop :=
  ∀ row ∈ world.db.computeInstances, row.serverInstanceId = owner → row.terminatedAt.isSome

theorem Released.steady (owner : ServerInstanceId) : Steady setup policy (Released owner) :=
  computes_steady fun old new same released owned => by
    rw [same.2.2.2.2]
    exact released (same.2.1.symm.trans owned)

theorem complete_works (stop : found.stopRequestedAt.isSome) :
    Works setup policy (fun world => Current found world ∧ Released found.id world) (complete found)
      fun _ _ => True := by
  have steady : Steady setup policy fun world => Current found world ∧ Released found.id world :=
    (Current.steady found).and (Released.steady found.id)
  refine Does.require fun published => ?_
  have published : unpublished found = false := by simpa using published
  refine Does.bind _ (clock_works steady _) fun time => ?_
  refine Does.bind _ (final_works steady _ (.completeInstance found.id .completed time) ?_)
    fun _ => Does.pure fun _ held => held
  rintro world inv ⟨current, released⟩
  refine ⟨⟨fun row member named prepared => ?_, fun row member owned => released row member owned⟩,
    spared_of_published inv current stop published, trivial⟩
  rw [current.unique inv member named] at prepared ⊢
  simpa [unpublished, prepared, Option.isSome_iff_ne_none] using published

theorem mayDelete_works (steady : Steady setup policy frame) :
    Works setup policy frame (mayDelete found compute)
      fun may world => frame world ∧ (may = true → unpublished found = false) := by
  refine Does.ite (fun _ => Does.pure fun world held => ⟨held, nofun⟩) fun published => ?_
  have published : unpublished found = false := by simpa using published
  refine Does.ite (fun _ => Does.pure fun world held => ⟨held, fun _ => published⟩) fun _ => ?_
  refine Does.bind _ (isConnected_works steady compute.id) fun connected => ?_
  exact Does.pure fun world held => ⟨held, fun _ => published⟩

theorem reconcileStopping_works (manager : ComputeManager)
    (stop : found.stopRequestedAt.isSome) (owner : server.id = found.serverId) :
    Works setup policy (Current found) (reconcileStopping manager server found) fun _ _ => True := by
  refine Does.bind _ (lookup_works (Current.steady found) _ (.getActiveCompute found.id) rfl
    (fun (active : Option ComputeInstance) db =>
      (∀ compute, active = some compute → ∃ row ∈ db.computeInstances, row.id = compute.id ∧
        row.serverInstanceId = found.id ∧ row.provider = compute.provider ∧
        row.providerInstanceId = compute.providerInstanceId ∧ row.terminatedAt = none) ∧
      (active = none → ∀ row ∈ db.computeInstances, row.serverInstanceId = found.id →
        row.terminatedAt.isSome)) ?_) fun (active : Option ComputeInstance) => ?_
  · intro world active _ _ answered
    refine ⟨?_, ?_⟩
    · rintro compute rfl
      obtain ⟨row, member, owned, running, rfl⟩ := getActiveForInstance_some answered
      exact ⟨row, member, rfl, owned, rfl, rfl, running⟩
    · rintro rfl
      exact getActiveForInstance_none answered
  · cases active with
    | none => exact (complete_works stop).strengthen fun _ held => ⟨held.1, held.2.2 rfl⟩
    | some compute =>
      refine Does.strengthen ?_ (fun world held => ⟨held.1, held.2.1 compute rfl⟩ :
        ∀ world, _ → Current found world ∧ Assigned compute found.id world)
      have steady := @assigned_steady setup policy found compute
      refine Does.bind _ (mayDelete_works steady) fun may => ?_
      refine Does.given fun published => ?_
      refine Does.ite (fun allowed => ?_) fun _ => stopConnected_works manager stop owner
      exact (deleteCompute_works manager stop (published allowed)).strengthen fun world held =>
        ⟨held.1, Booked.allocated held.2⟩

theorem createInstance_works (server : Server) :
    Works setup policy (fun _ => True) (createInstance server) fun _ _ => True := by
  have steady : Steady setup policy fun _ : World => True := Contract.Stable.const True
  refine Does.ite (fun _ => ?_) fun _ => Does.pure fun _ _ => trivial
  refine Does.bind _ (clock_works steady _) fun time => ?_
  refine Does.bind (fun _ _ => True) ?_ fun _ => Does.pure fun _ held => held
  refine Does.bind _ (newUuid_works steady) fun uuid => ?_
  refine Does.bind _ (final_works steady _ (.insertInstance server.id ⟨uuid⟩ time)
    fun _ _ _ => ⟨trivial, trivial, trivial⟩) fun (inserted : Bool) => ?_
  refine Does.ite (fun _ => ?_) fun _ => Does.pure fun _ held => held
  exact final_works steady _ (.getInstance ⟨uuid⟩) fun _ _ _ => ⟨trivial, trivial, trivial⟩

theorem requestStop_works (running : found.stopRequestedAt = none)
    (active : found.terminatedAt = none) (time : UnixTimestampMillis) :
    Works setup policy (Current found) (db .repository (.requestStop found.id time) : Reconcile Bool)
      fun (requested : Bool) _ => requested = true := by
  refine Does.raising (Triple.perform (Current.steady found) fun world inv current =>
    ⟨⟨trivial, trivial, trivial⟩, fun choice requested accepted => ?_⟩)
  obtain ⟨answered, -⟩ := exec_db_value accepted
  have keyed : ∀ row : ServerInstance,
      (row.id = found.id && row.terminatedAt.isNone && row.stopRequestedAt.isNone) = true →
        row.id = found.id := by
    intro row chosen
    simp only [Bool.and_eq_true, decide_eq_true_eq] at chosen
    exact chosen.1.1
  refine touchedOne_one ?_ answered
  exact (inv.history.current.keyed.instanceIds.affected_eq_one keyed).mpr
    ⟨found, current, by simp [running, active]⟩

theorem reconcileActive_works (manager : ComputeManager)
    (active : found.terminatedAt = none) (owner : server.id = found.serverId) :
    Works setup policy (fun world => Current found world ∧ Loaded server world)
      (reconcileActive manager server found) fun _ _ => True := by
  by_cases running : found.stopRequestedAt = none
  · cases wanted : server.desiredState with
    | running =>
      refine Does.ite (fun both => ?_) fun _ => ?_
      · rw [wanted] at both
        exact nomatch both.1
      · refine Does.ite (fun stop => ?_) fun _ => reconcileRunning_works manager running wanted owner
        rw [running] at stop
        cases stop
    | stopped =>
      refine Does.ite (fun _ => ?_) fun neither => absurd ⟨wanted, by simp [running]⟩ neither
      refine (Does.bind _ (clock_works (Current.steady found) _) fun time => ?_).strengthen fun _ held => held.1
      refine Does.bind _ (requestStop_works running active time) fun (requested : Bool) => ?_
      refine Does.ite (fun _ => Does.pure fun _ _ => trivial) fun denied => ?_
      exact fun world requested => absurd requested denied
  · have stop : found.stopRequestedAt.isSome := Option.isSome_iff_ne_none.mpr running
    refine Does.ite (fun both => ?_) fun _ => ?_
    · exact absurd (Option.isNone_iff_eq_none.mp both.2) running
    · exact Does.ite (fun _ => (reconcileStopping_works manager stop owner).strengthen
        fun _ held => held.1) fun unstopped => absurd stop unstopped

theorem getServer_works (serverId : ServerId) :
    Works setup policy (fun _ => True) (db .repository (.getServer serverId) : Reconcile (Option Server))
      fun stored world => ∀ server, stored = some server → Loaded server world ∧ server.id = serverId := by
  refine Does.raising ((calm_step (Contract.Stable.const True) (.db (.getServer serverId)) rfl
    (fun _ _ _ => lookup_issuable rfl _) (fun (result : Except RepositoryError (Option Server)) world =>
      ∀ server, result = .ok (some server) → Loaded server world ∧ server.id = serverId) ?_).weaken ?_)
  · intro world choice _ _ server accepted
    obtain ⟨answered, after⟩ := exec_db_value accepted
    obtain ⟨row, member, named, rfl⟩ := getServer_some answered
    rw [after]
    exact ⟨⟨world.db, List.mem_cons_self, row, member, rfl⟩, named⟩
  · rintro result world ⟨-, told⟩ stored accepted server rfl
    exact told server accepted

theorem reconcileOnce_works (manager : ComputeManager) (serverId : ServerId) :
    Works setup policy (fun _ => True) (reconcileOnce manager serverId) fun _ _ => True := by
  refine Does.bind _ (getServer_works serverId) fun (stored : Option Server) => ?_
  match stored with
  | none => exact Does.pure fun _ _ => trivial
  | some server =>
    refine Does.strengthen (Does.given fun same => ?_) fun world held => held server rfl
    refine Does.bind _ (lookup_works (Loaded.steady server) _ (.getActiveInstance serverId) rfl
      (fun (active : Option ServerInstance) db => ∀ found, active = some found →
        found ∈ db.serverInstances ∧ found.serverId = serverId ∧ found.terminatedAt = none) ?_)
      fun (active : Option ServerInstance) => ?_
    · rintro world active - - answered found rfl
      exact getActiveForServer_some answered
    · match active with
      | none => exact (createInstance_works server).strengthen fun _ _ => trivial
      | some found =>
        rintro world ⟨loaded, read⟩
        obtain ⟨current, owner, running⟩ := read found rfl
        exact reconcileActive_works manager running (same.trans owner.symm) world ⟨current, loaded⟩

theorem reconcileTurns_works (manager : ComputeManager) (serverId : ServerId) (turns : Nat) :
    Works setup policy (fun _ => True) (reconcileTurns manager serverId turns) fun _ _ => True := by
  induction turns with
  | zero => exact Does.fail
  | succ turns ih =>
    refine Does.bind _ (reconcileOnce_works manager serverId) fun outcome => ?_
    cases outcome with
    | changed => exact ih
    | stable => exact Does.pure fun _ held => held
    | awaiting => exact Does.pure fun _ held => held

theorem recordError_works (serverId : ServerId) (error : ReconcileError) :
    Works setup policy (fun _ => True) (recordError serverId error) fun _ _ => True := by
  have steady : Steady setup policy fun _ : World => True := Contract.Stable.const True
  refine Does.bind _ (final_works steady _ (.getActiveInstance serverId)
    fun _ _ _ => ⟨trivial, trivial, trivial⟩) fun (active : Option ServerInstance) => ?_
  match active with
  | none => exact Does.pure fun _ held => held
  | some found =>
    refine Does.bind _ (clock_works steady _) fun time => ?_
    exact final_works steady _ _ fun _ _ _ => ⟨trivial, trivial, error, rfl⟩

theorem reconcileAndSchedule_works (manager : ComputeManager) (serverId : ServerId) :
    (contract setup policy).Triple exec .worker (fun _ => True)
      (reconcileAndSchedule manager serverId) fun _ _ => True := by
  have turns := @reconcileTurns_works setup policy manager serverId maxImmediateTransitions
  refine Triple.bind (fun _ _ => True) (Triple.weaken turns fun _ _ _ => trivial) fun outcome => ?_
  match outcome with
  | .ok _ => exact Triple.done fun _ held => held
  | .error error =>
    have recorded := @recordError_works setup policy serverId error
    exact Triple.bind (fun _ _ => True) (Triple.weaken recorded fun _ _ _ => trivial)
      fun _ => Triple.done fun _ held => held

end Reconciling

end McServer.System
