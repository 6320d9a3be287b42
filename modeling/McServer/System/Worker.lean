import McServer.System.Renting

set_option autoImplicit false

namespace McServer.System

open Domain Store Agent ControlPlane Interleaving Interleaving.Contract

section Worker

variable {setup : Setup} {policy : Policy setup}

def isCalmUpdate : DbOp → Bool
  | .recordProcessId _ _ _ | .requestShutdown _ _ | .updateDesiredState _ _ => true
  | _ => false

def calm : Op → Bool
  | .db op => isLookup op || isCalmUpdate op
  | .provider (.createInstance _) => false
  | _ => true

theorem calm_tables {op : DbOp} (isCalm : (isLookup op || isCalmUpdate op) = true) (db : Database) :
    (op.query db).2.serverInstances = db.serverInstances ∧
      Table.Moved SameAllocation db.computeInstances (op.query db).2.computeInstances := by
  rcases Bool.or_eq_true_iff.mp isCalm with lookup | update
  · rw [lookup_unchanged lookup]
    exact ⟨rfl, moved_refl _⟩
  · cases op with
    | recordProcessId | requestShutdown =>
      exact updateComputes_keeps db fun row => ⟨rfl, rfl, rfl, rfl, rfl⟩
    | updateDesiredState server previous =>
      obtain ⟨instances, computes⟩ := @client_tables (.updateDesiredState server previous) rfl db
      rw [computes]
      exact ⟨instances, moved_refl _⟩
    | _ => cases update

theorem deleteInstance_undisturbed (world : World) (id : Nat) :
    Undisturbed world (settleProvider (.deleteInstance id) (world.provider.delete id) world) := by
  unfold settleProvider
  dsimp only
  split
  · rename_i vm found
    have forgotten : Quiet world ({ world with provider := world.provider.delete id } : World) :=
      Quiet.same rfl rfl
    obtain ⟨queues, answers, hosts⟩ := forgotten.trans (quiet_wipeVm _ vm)
    have quiet : Quiet world ((({ world with provider := world.provider.delete id } : World).wipeVm
        vm).note [.vmDeleted vm world.db]) := ⟨queues, answers, hosts⟩
    refine ⟨quiet.persists (by simpa [World.note] using Evolved.refl world.db)
      [.vmDeleted vm world.db] (by simp [World.note]) (by simp [Started, isStartOf]), ?_, ?_, ?_⟩
    · simp [World.note]
    · simpa [World.note] using moved_refl _
    · simpa [World.note] using Untouched.delete world.provider id
  · exact ⟨Quiet.persists (Quiet.same rfl rfl) (Evolved.refl world.db) [] rfl (by simp [Started]), rfl,
      moved_refl _, Untouched.delete world.provider id⟩

theorem execProvider_undisturbed {op : ProviderOp} (isCalm : calm (.provider op) = true)
    (choice : Choice) (world : World) : Undisturbed world (execProvider op choice world).2 := by
  have settled : Undisturbed world (settleProvider op (world.provider.apply op choice.answers).2 world) := by
    cases op with
    | deleteInstance id => exact deleteInstance_undisturbed world id
    | createInstance request => cases isCalm
    | _ => exact Undisturbed.refl world
  unfold execProvider
  dsimp only
  split
  · exact Undisturbed.refl world
  · split
    · exact settled
    · exact Undisturbed.refl world
    · exact settled

theorem applyLocal_undisturbed (op : LocalOp) (choice : Choice) (world : World) :
    Undisturbed world (applyLocal op choice world).2 := by
  have altered : ∀ {machine}, Undisturbed world { world with machine } :=
    Undisturbed.quiet (Quiet.same rfl rfl) rfl rfl [] rfl (by simp [Started])
  cases op with
  | removeStateDirectory compute =>
    have cleared : Quiet world ((world.cutOff compute).setHost compute
        (world.hosts compute).withoutDirectory) :=
      (quiet_cutOff world compute).trans (quiet_setHost (by rintro _ ⟨⟩))
    obtain ⟨queues, answers, hosts⟩ := cleared
    exact Undisturbed.quiet ⟨queues, answers, hosts⟩ rfl rfl [.stateDirectoryRemoved compute] rfl
      (by simp [Started, isStartOf])
  | removeContainer name =>
    refine Undisturbed.quiet ⟨fun _ => List.Sublist.refl _, fun _ => List.Subset.refl _,
      fun compute => ?_⟩ rfl rfl [] rfl (by simp [Started])
    simp only [applyLocal]
    split
    · exact fun _ known => known
    · exact fun _ known => known
  | tryWaitChild compute =>
    simp only [applyLocal]
    split
    · exact Undisturbed.refl world
    · split
      · exact Undisturbed.refl world
      · exact altered
  | signal processId name =>
    simp only [applyLocal]
    split
    · exact altered
    · exact Undisturbed.refl world
  | takeChild | insertChild | waitChild | killChild | storeRuntimeState | spawnAgent
  | createStateDirectory =>
    exact altered
  | _ => exact Undisturbed.refl world

theorem calm_undisturbed {world : World} (inv : Inv setup policy world) {op : Op}
    (isCalm : calm op = true) (guard : workerGuard setup policy world op) (choice : Choice) :
    Undisturbed world (exec op choice world).2 := by
  cases op with
  | db op =>
    obtain ⟨instances, computes⟩ := calm_tables isCalm world.db
    exact execDb_undisturbed inv guard.1 instances computes choice
  | provider op => exact execProvider_undisturbed isCalm choice world
  | machine op =>
    have applied := applyLocal_undisturbed op choice world
    simp only [exec, execLocal]
    split
    · exact applied
    · exact Undisturbed.refl world
    · exact applied
  | link op =>
    cases op with
    | isConnected compute => exact Undisturbed.refl world
    | send compute command =>
      simp only [exec, execLink]
      rcases execSend_cases compute command world with ⟨error, failed⟩ | unread | sent
      · rw [failed]
        exact Undisturbed.refl world
      · rw [unread]
        obtain ⟨queues, answers, hosts⟩ :=
          quiet_setLink (List.Sublist.refl (world.links compute).queue)
            (List.Subset.refl (world.links compute).answers)
        exact Undisturbed.quiet ⟨queues, answers, hosts⟩ rfl rfl [] rfl (by simp [Started])
      · rw [sent]
        exact Undisturbed.aside (pushed_persists guard.2) rfl rfl
    | await compute exchange =>
      simp only [exec, execLink]
      rcases execAwait_cases compute exchange choice world with
        ⟨result, done, -⟩ | ⟨error, given, failed⟩
      · rw [done]
        exact Undisturbed.refl world
      · rw [failed]
        exact Undisturbed.setLink (by rw [fail_queue]) (by rw [fail_answers]; exact List.Subset.refl _)
    | _ => exact guard.elim
  | clock | newUuid | readBounded => exact Undisturbed.refl world
  | _ => exact guard.elim

abbrev Works (setup : Setup) (policy : Policy setup) {E A : Type} (pre : World → Prop)
    (program : Flow E A) (post : A → World → Prop) : Prop :=
  (contract setup policy).Does exec .worker pre program post

abbrev Steady (setup : Setup) (policy : Policy setup) (assertion : World → Prop) : Prop :=
  (contract setup policy).Stable .worker assertion

theorem worker_rents : Renting (contract setup policy) .worker where
  fleet _ inv := inv.fleet
  account _ _ rely := rely.1.account
  reads op _ read := by cases op <;> trivial
  files _ _ _ := trivial

variable {frame : World → Prop}

theorem calm_step (steady : Steady setup policy frame) (op : Op) (isCalm : calm op = true)
    (guard : ∀ world, Inv setup policy world → frame world → workerGuard setup policy world op)
    (told : op.Res → World → Prop)
    (answer : ∀ world choice, Inv setup policy world → frame world →
      told (exec op choice world).1 (exec op choice world).2) :
    (contract setup policy).Triple exec .worker frame (Prog.perform op)
      fun result world => frame world ∧ told result world := by
  refine Triple.perform steady fun world inv held => ?_
  have allowed := guard world inv held
  refine ⟨allowed, fun choice => ⟨?_, answer world choice inv held⟩⟩
  exact steady world _ held ⟨calm_undisturbed inv isCalm allowed choice, exec_extends world choice op⟩
    (worker_keeps inv allowed choice)

theorem calm_keeps (steady : Steady setup policy frame) (op : Op) (isCalm : calm op = true)
    (guard : ∀ world, Inv setup policy world → frame world → workerGuard setup policy world op) :
    (contract setup policy).Triple exec .worker frame (Prog.perform op) fun _ => frame :=
  (calm_step steady op isCalm guard (fun _ _ => True) fun _ _ _ _ => trivial).weaken fun _ _ held => held.1

variable {E : Type}

theorem clock_works (steady : Steady setup policy frame) (into : TimestampError → E) :
    Works setup policy frame (clock into) fun _ => frame :=
  Does.raising ((calm_keeps steady .clock rfl fun _ _ _ => trivial).weaken fun _ _ held _ _ => held)

theorem newUuid_works (steady : Steady setup policy frame) :
    Works setup policy frame (newUuid : Flow E Uuid) fun _ => frame :=
  Does.lift (calm_keeps steady .newUuid rfl fun _ _ _ => trivial)

theorem newConnectionToken_works (steady : Steady setup policy frame) :
    Works setup policy frame (newConnectionToken : Flow E String)
      fun token world => frame world ∧ IsConnectionToken token := by
  refine Does.bind _ (newUuid_works steady) fun first => ?_
  refine Does.bind _ (newUuid_works steady) fun second => ?_
  exact Does.pure fun _ held => ⟨held, first, second, rfl⟩

theorem isConnected_works (steady : Steady setup policy frame) (compute : ComputeInstanceId) :
    Works setup policy frame (isConnected compute : Flow E Bool) fun _ => frame :=
  Does.lift (calm_keeps steady (.link (.isConnected compute)) rfl fun _ _ _ => trivial)

theorem lookup_works (steady : Steady setup policy frame) (into : RepositoryError → E) (op : DbOp)
    (lookup : isLookup op = true) (told : op.Value → Database → Prop)
    (answer : ∀ (world : World) value, Inv setup policy world → frame world →
      (op.query world.db).1 = .ok value → told value world.db) :
    Works setup policy frame (db into op) fun value world => frame world ∧ told value world.db := by
  refine Does.raising ((calm_step steady (.db op) ?_ (fun world _ _ => lookup_issuable lookup world)
    (fun result world => ∀ value, result = .ok value → told value world.db) ?_).weaken ?_)
  · simp [calm, lookup]
  · intro world choice inv held value accepted
    obtain ⟨answered, after⟩ := exec_db_value accepted
    rw [after]
    simp only [applied, World.store, World.note, lookup_unchanged lookup]
    exact answer world value inv held answered
  · exact fun result world held value accepted => ⟨held.1, held.2 value accepted⟩

theorem update_works (steady : Steady setup policy frame) (into : RepositoryError → E) (op : DbOp)
    (isCalm : calm (.db op) = true)
    (issuable : ∀ world, Inv setup policy world → frame world → Issuable setup policy world op) :
    Works setup policy frame (db into op) fun _ => frame :=
  Does.raising ((calm_keeps steady (.db op) isCalm issuable).weaken fun _ _ held _ _ => held)

theorem final_works (steady : Steady setup policy frame) (into : RepositoryError → E) (op : DbOp)
    (issuable : ∀ world, Inv setup policy world → frame world → Issuable setup policy world op) :
    Works setup policy frame (db into op) fun _ _ => True :=
  Does.raising (Triple.perform steady fun world inv held => ⟨issuable world inv held, fun _ _ _ => trivial⟩)

theorem machine_works (steady : Steady setup policy frame) {op : LocalOp} {into : LocalError → E}
    (guard : ∀ world, Inv setup policy world → frame world → localGuard world op) :
    Works setup policy frame (Try.raising into (Prog.perform (Op.machine op)) : Flow E op.Value)
      fun _ => frame :=
  Does.raising ((calm_keeps steady (.machine op) rfl guard).weaken fun _ _ held _ _ => held)

def Answered (world : World) (compute : ComputeInstanceId) : CommandResult → Prop
  | .inspected result => ∀ snapshotId, result.lastSnapshotId = some snapshotId →
      Made world compute snapshotId
  | .snapshot snapshotId => Made world compute snapshotId
  | _ => True

variable {world : World} {compute : ComputeInstanceId} {command : Command}

theorem answered_of_member (agents : Agents world) {exchange : Exchange} {result : CommandResult}
    (member : (exchange, .ok result) ∈ (world.links compute).answers) :
    Answered world compute result := by
  cases result with
  | inspected result =>
    exact fun snapshotId last => agents.inspected compute exchange result snapshotId member last
  | snapshot snapshotId => exact agents.published compute exchange snapshotId member
  | _ => trivial

def Sendable (world : World) (compute : ComputeInstanceId) (command : Command) : Prop :=
  Permitted world compute command ∧ ∀ id, startsInstance id command = true → ¬ StopRequested world.db id

theorem call_works (steady : Steady setup policy frame)
    (sendable : ∀ world, Inv setup policy world → frame world → Sendable world compute command) :
    Works setup policy frame (call compute command)
      fun result world => frame world ∧ Answered world compute result := by
  refine Does.bind (fun _ => frame) ((calm_keeps steady (.link (.send compute command)) rfl
    sendable).weaken fun _ _ held _ _ => held) fun tag => ?_
  refine (calm_step steady (.link (.await compute { tag, command })) rfl (fun _ _ _ => trivial)
    (fun result world => ∀ value, result = .ok value → Answered world compute value) ?_).weaken ?_
  · intro world choice inv _ value accepted
    simp only [exec, execLink] at accepted ⊢
    rcases execAwait_cases compute { tag, command } choice world with
      ⟨result, done, member⟩ | ⟨error, given, failed⟩
    · rw [done] at accepted ⊢
      injection accepted with same
      rw [← same]
      exact answered_of_member inv.agents member
    · rw [failed] at accepted
      cases accepted
  · exact fun result world held value accepted => ⟨held.1, held.2 value accepted⟩

theorem call_keeps (steady : Steady setup policy frame)
    (sendable : ∀ world, Inv setup policy world → frame world → Sendable world compute command) :
    (contract setup policy).Triple exec .worker frame (call compute command) fun _ => frame := by
  refine Triple.tryBind (fun _ => frame) ((calm_keeps steady
    (.link (.send compute command)) rfl sendable).weaken fun result world held => ?_) fun tag => ?_
  · cases (result : Except AgentCallError Nat) with
    | ok tag => exact held
    | error error => exact held
  · exact calm_keeps steady (.link (.await compute { tag, command })) rfl fun _ _ _ => trivial

theorem request_works (steady : Steady setup policy frame) {A : Type}
    {expect : CommandResult → Except AgentCallError A}
    (sendable : ∀ world, Inv setup policy world → frame world → Sendable world compute command) :
    Works setup policy frame (request compute command expect) fun value world => frame world ∧
        ∃ result, expect result = .ok value ∧ Answered world compute result := by
  refine Does.raising (Does.bind _ (call_works steady sendable) fun result => ?_)
  exact Does.ofExcept fun value accepted world held => ⟨held.1, result, accepted, held.2⟩

theorem request_keeps (steady : Steady setup policy frame) {A : Type}
    {expect : CommandResult → Except AgentCallError A}
    (sendable : ∀ world, Inv setup policy world → frame world → Sendable world compute command) :
    Works setup policy frame (request compute command expect) fun _ => frame :=
  (request_works steady sendable).weaken fun _ _ held => held.1

def Current (found : ServerInstance) (world : World) : Prop := found ∈ world.db.serverInstances

def Booked (id : ComputeInstanceId) (owner : ServerInstanceId) (provider : ComputeProvider)
    (recorded : Option String) (world : World) : Prop :=
  ∃ row ∈ world.db.computeInstances, row.id = id ∧ row.serverInstanceId = owner ∧
    row.provider = provider ∧ row.providerInstanceId = recorded ∧ row.terminatedAt = none

abbrev Assigned (compute : ComputeInstance) (owner : ServerInstanceId) : World → Prop :=
  Booked compute.id owner compute.provider compute.providerInstanceId

def Anchored (compute : ComputeInstanceId) (owner : ServerInstanceId) (world : World) : Prop :=
  ∃ provider recorded, Booked compute owner provider recorded world ∧ (provider = .akamai →
    ∀ vm ∈ world.provider.instances, vm.label = providerLabel compute → recorded = some (toString vm.id))

theorem Current.steady (found : ServerInstance) : Steady setup policy (Current found) := by
  intro before after current rely _
  rw [Current, rely.1.instances]
  exact current

theorem Booked.steady (id : ComputeInstanceId) (owner : ServerInstanceId)
    (provider : ComputeProvider) (recorded : Option String) :
    Steady setup policy (Booked id owner provider recorded) := by
  rintro before after ⟨row, member, named, owned, sort, known, running⟩ rely -
  obtain ⟨new, stored, h1, h2, h3, h4, h5⟩ := rely.1.computes.image row member
  exact ⟨new, stored, h1.trans named, h2.trans owned, h3.trans sort, h4.trans known, h5.trans running⟩

theorem Anchored.steady (compute : ComputeInstanceId) (owner : ServerInstanceId) :
    Steady setup policy (Anchored compute owner) := by
  rintro before after ⟨provider, recorded, booked, known⟩ rely inv
  refine ⟨provider, recorded, Booked.steady _ _ _ _ before after booked rely inv, fun remote => ?_⟩
  exact labelled_stable worker_rents before after (known remote) rely inv

theorem Made.steady (compute : ComputeInstanceId) (snapshotId : String) :
    Steady setup policy fun world => Made world compute snapshotId :=
  fun _ _ made rely _ => made.persists rely.1.persists

theorem Allocated.steady (compute : ComputeInstanceId) (id : ServerInstanceId) :
    Steady setup policy fun world => Allocated world.db compute id :=
  fun _ _ allocated rely _ => allocated.evolved rely.1.persists.evolved

-- What holds of every row of the computes' table, as far as the worker alone writes it.
theorem computes_steady {holds : ComputeRow → Prop}
    (same : ∀ old new, SameAllocation old new → holds old → holds new) :
    Steady setup policy fun world => ∀ row ∈ world.db.computeInstances, holds row := by
  intro before after held rely _ row member
  obtain ⟨old, stored, kept⟩ := rely.1.computes.origin row member
  exact same old row kept (held old stored)

theorem Booked.allocated {id : ComputeInstanceId} {owner : ServerInstanceId}
    {provider : ComputeProvider} {recorded : Option String}
    (booked : Booked id owner provider recorded world) : Allocated world.db id owner := by
  obtain ⟨row, member, named, owned, -⟩ := booked
  exact ⟨row, member, named, owned⟩

theorem Anchored.allocated {owner : ServerInstanceId}
    (anchored : Anchored compute owner world) : Allocated world.db compute owner := by
  obtain ⟨provider, recorded, booked, -⟩ := anchored
  exact booked.allocated

theorem Anchored.issuable {owner : ServerInstanceId}
    (inv : Inv setup policy world) (anchored : Anchored compute owner world)
    (now : UnixTimestampMillis) : Issuable setup policy world (.markDataPrepared owner now) := by
  obtain ⟨provider, recorded, ⟨row, member, named, owned, sort, known, -⟩, onRecord⟩ := anchored
  refine ⟨trivial, fun other present owned' vm running labelled => ?_, trivial⟩
  obtain rfl := inv.history.current.allocation.single.eq_of_key present member (owned'.trans owned.symm)
  obtain ⟨remoteRow, stored, same, remote⟩ := inv.tenancy.row vm running other.id labelled
  obtain rfl := inv.history.current.keyed.computeIds.eq_of_key stored present same
  rw [known]
  exact onRecord (sort.symm.trans remote) vm running (by rw [← named]; exact labelled)

theorem Current.unique (inv : Inv setup policy world) {found : ServerInstance}
    (current : Current found world) {row : ServerInstance} (member : row ∈ world.db.serverInstances)
    (same : row.id = found.id) : row = found :=
  inv.history.current.keyed.instanceIds.eq_of_key member current same

theorem ExplainedLog.of_mem {issuers : R2TemporaryCredentialManager → Prop}
    (log : ExplainedLog issuers world) {entry : Entry} (member : entry ∈ world.log) :
    ∃ earlier, Explained issuers world earlier entry := by
  obtain ⟨later, earlier, split⟩ := List.append_of_mem member
  exact ⟨earlier, log entry earlier ⟨later, split.symm⟩⟩

-- A start is only ever sent when the data of its instance is known to be prepared.
theorem started_prepared (inv : Inv setup policy world) {id : ServerInstanceId}
    (started : Started world.log id) :
    ∃ row ∈ world.db.serverInstances, row.id = id ∧ row.dataPreparedAt.isSome := by
  obtain ⟨entry, member, starts⟩ := started
  obtain ⟨earlier, explained⟩ := inv.log.of_mem member
  cases entry with
  | executed compute command => exact (explained.1.start starts).2
  | _ => cases starts

theorem awaiting_prepared (inv : Inv setup policy world) {id : ServerInstanceId}
    (awaiting : Awaiting world id) :
    ∃ row ∈ world.db.serverInstances, row.id = id ∧ row.dataPreparedAt.isSome := by
  obtain ⟨compute, exchange, member, starts⟩ := awaiting
  exact ((inv.agents.queued compute exchange member).start starts).2

theorem spared_of_published (inv : Inv setup policy world) {found : ServerInstance}
    (current : Current found world) (stop : found.stopRequestedAt.isSome)
    (published : ReconcileWorker.unpublished found = false) : Spared world found.id := by
  cases result : found.resultSnapshotId with
  | some snapshotId => exact .inl ⟨snapshotId, inv.results found current snapshotId result⟩
  | none =>
    have unprepared : found.dataPreparedAt.isSome = false := by
      simpa [ReconcileWorker.unpublished, result] using published
    have absent : ¬ ∃ row ∈ world.db.serverInstances, row.id = found.id ∧ row.dataPreparedAt.isSome := by
      rintro ⟨row, member, same, prepared⟩
      rw [current.unique inv member same, unprepared] at prepared
      cases prepared
    exact .inr ⟨⟨found, current, rfl, stop⟩, fun awaiting => absent (awaiting_prepared inv awaiting),
      fun started => absent (started_prepared inv started)⟩

end Worker

end McServer.System
