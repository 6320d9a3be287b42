import McServer.System.DatabaseSteps
import McServer.System.AgentSteps

set_option autoImplicit false

namespace McServer.System

open Domain Store Agent ControlPlane Interleaving

section Keeps

variable {setup : Setup} {policy : Policy setup} {world : World}

theorem worker_keeps (inv : Inv setup policy world) {op : Op}
    (guard : workerGuard setup policy world op) (choice : Choice) :
    Inv setup policy (exec op choice world).2 := by
  cases op with
  | db op => exact execDb_keeps inv guard choice
  | provider op => exact execProvider_keeps inv guard choice
  | machine op => exact execLocal_keeps inv guard choice
  | link op =>
    cases op with
    | isConnected compute => exact inv
    | send compute command => exact execSend_keeps inv guard.1 guard.2
    | await compute exchange => exact execAwait_keeps inv compute exchange choice
    | _ => exact guard.elim
  | clock | newUuid | readBounded => exact inv
  | _ => exact guard.elim

theorem client_keeps (inv : Inv setup policy world) {op : Op}
    (guard : clientGuard setup policy world op) (choice : Choice) :
    Inv setup policy (exec op choice world).2 := by
  cases op with
  | db op => exact execDb_keeps inv guard.1 choice
  | clock | newUuid | begin => exact inv
  | reply since request result => exact inv.note guard fun _ => rfl
  | _ => exact guard.elim

theorem connection_keeps (inv : Inv setup policy world) {op : Op}
    (guard : connectionGuard setup policy world op) (choice : Choice) :
    Inv setup policy (exec op choice world).2 := by
  cases op with
  | db op => exact execDb_keeps inv guard.1 choice
  | clock | begin | openssl => exact inv
  | link op =>
    cases op with
    | accept => exact inv.quiet (Quiet.same rfl rfl) rfl rfl rfl rfl rfl
    | register compute connection => exact register_keeps inv compute connection choice
    | endSession compute connection =>
      exact inv.setLink (List.Sublist.refl _) (List.Subset.refl _)
    | unregister compute connection =>
      exact inv.setLink (List.Sublist.refl _) (List.Subset.refl _)
    | _ => exact guard.elim
  | issueCredentials compute keyPrefix ttl =>
    simp only [exec]
    split
    · exact inv
    · exact inv.note guard fun _ => rfl
  | respond since request der response =>
    have answered : Inv setup policy (world.note [.answered request der response (world.window since)]) :=
      inv.note guard fun _ => rfl
    simp only [exec]
    split
    · exact answered
    · exact inv
    · exact answered
  | _ => exact guard.elim

end Keeps

theorem Extends.same {before after : World} (past : after.past = before.past)
    (log : after.log = before.log) : Extends before after := by
  constructor
  · exact past ▸ List.suffix_refl _
  · exact log ▸ List.suffix_refl _

theorem Extends.refl (world : World) : Extends world world := Extends.same rfl rfl

theorem Extends.trans {first second third : World} (left : Extends first second)
    (right : Extends second third) : Extends first third :=
  ⟨left.past.trans right.past, left.log.trans right.log⟩

section Extends

variable (world : World) (choice : Choice)

theorem settleProvider_extends (op : ProviderOp) (provider : Provider) :
    Extends world (settleProvider op provider world) := by
  unfold settleProvider
  dsimp only
  split
  · split
    · constructor <;> simp [World.note]
    · exact Extends.same rfl rfl
  · exact Extends.same rfl rfl
  · exact Extends.same rfl rfl

theorem execDb_extends (op : DbOp) : Extends world (execDb op choice world).2 := by
  rcases execDb_cases op choice world with failed | ⟨done, -⟩
  · rw [failed]
    exact ⟨List.suffix_cons _ _, List.suffix_refl _⟩
  · rw [done]
    exact ⟨List.suffix_cons _ _, List.suffix_append _ _⟩

theorem execProvider_extends (op : ProviderOp) : Extends world (execProvider op choice world).2 := by
  have settled := settleProvider_extends world op (world.provider.apply op choice.answers).2
  unfold execProvider
  dsimp only
  split
  · exact Extends.refl world
  · split
    · exact settled
    · exact Extends.refl world
    · exact settled

theorem applyLocal_extends (op : LocalOp) : Extends world (applyLocal op choice world).2 := by
  cases op with
  | removeStateDirectory compute => exact ⟨List.suffix_refl _, List.suffix_cons _ _⟩
  | tryWaitChild compute =>
    simp only [applyLocal]
    split
    · exact Extends.refl world
    · split <;> exact Extends.same rfl rfl
  | signal processId name =>
    simp only [applyLocal]
    split <;> exact Extends.same rfl rfl
  | _ => exact Extends.same rfl rfl

theorem execLocal_extends (op : LocalOp) : Extends world (execLocal op choice world).2 := by
  have applied := applyLocal_extends world choice op
  unfold execLocal
  dsimp only
  split
  · exact applied
  · exact Extends.refl world
  · exact applied

theorem execLink_extends (op : LinkOp) : Extends world (execLink op choice world).2 := by
  cases op with
  | send compute command =>
    simp only [execLink]
    rcases execSend_cases compute command world with ⟨error, failed⟩ | unread | sent
    · rw [failed]
      exact Extends.refl world
    · rw [unread]
      exact Extends.same rfl rfl
    · rw [sent]
      exact Extends.same rfl rfl
  | await compute exchange =>
    simp only [execLink]
    rcases execAwait_cases compute exchange choice world with ⟨result, done, -⟩ | ⟨error, given, failed⟩
    · rw [done]
      exact Extends.refl world
    · rw [failed]
      exact Extends.same rfl rfl
  | _ => exact Extends.same rfl rfl

theorem exec_extends (op : Op) : Extends world (exec op choice world).2 := by
  cases op with
  | db op => exact execDb_extends world choice op
  | provider op => exact execProvider_extends world choice op
  | machine op => exact execLocal_extends world choice op
  | link op => exact execLink_extends world choice op
  | issueCredentials compute keyPrefix ttl =>
    simp only [exec]
    split
    · exact Extends.refl world
    · exact ⟨List.suffix_refl _, List.suffix_cons _ _⟩
  | reply since request result => exact ⟨List.suffix_refl _, List.suffix_cons _ _⟩
  | respond since request der response =>
    simp only [exec]
    split
    · exact ⟨List.suffix_refl _, List.suffix_cons _ _⟩
    · exact Extends.refl world
    · exact ⟨List.suffix_refl _, List.suffix_cons _ _⟩
  | _ => exact Extends.refl world

theorem environment_extends (setup : Setup) (action : Action) :
    Extends world (environment setup action world) := by
  cases action with
  | agentExecutes compute choices =>
    simp only [environment]
    rcases @agentExecutes_cases setup compute choices world with
      idle | ⟨exchange, rest, progress, node, -, -, done⟩
    · rw [idle]
      exact Extends.refl world
    · rw [done]
      refine ⟨List.suffix_refl _, ?_⟩
      simp only [worked]
      exact (List.suffix_cons _ _).trans (List.suffix_append _ _)
  | vmVanishes id =>
    simp only [environment, vmVanishes]
    split
    · exact Extends.refl world
    · constructor <;> simp
  | foreignVmAppears vm =>
    simp only [environment, foreignVmAppears]
    split <;> exact Extends.same rfl rfl
  | _ => exact Extends.same rfl rfl

end Extends

section Undisturbed

variable {setup : Setup} {policy : Policy setup} {world : World}

theorem sameAllocation_refl (row : ComputeRow) : SameAllocation row row := ⟨rfl, rfl, rfl, rfl, rfl⟩

theorem moved_refl (rows : List ComputeRow) : Table.Moved SameAllocation rows rows :=
  ⟨fun row member => ⟨row, member, sameAllocation_refl row⟩,
    fun row member => ⟨row, member, sameAllocation_refl row⟩⟩

theorem Untouched.refl (provider : Provider) : Untouched provider provider :=
  ⟨fun _ member => .inl member, le_refl _⟩

theorem Untouched.trans {first second third : Provider} (left : Untouched first second)
    (right : Untouched second third) : Untouched first third := by
  refine ⟨fun vm member => ?_, left.nextId.trans right.nextId⟩
  rcases right.vms vm member with old | ⟨recent, foreign⟩
  · exact left.vms vm old
  · exact .inr ⟨left.nextId.trans recent, foreign⟩

theorem Untouched.delete (provider : Provider) (id : Nat) : Untouched provider (provider.delete id) :=
  ⟨fun _ member => .inl (mem_delete member), le_refl _⟩

theorem Undisturbed.refl (world : World) : Undisturbed world world :=
  ⟨Persists.refl world, rfl, moved_refl _, Untouched.refl _⟩

theorem Undisturbed.trans {first second third : World} (left : Undisturbed first second)
    (right : Undisturbed second third) : Undisturbed first third := by
  refine ⟨left.persists.trans right.persists, right.instances.trans left.instances, ?_,
    left.account.trans right.account⟩
  · have compose : ∀ {old middle new}, SameAllocation old middle → SameAllocation middle new →
        SameAllocation old new := by
      rintro old middle new ⟨h1, h2, h3, h4, h5⟩ ⟨k1, k2, k3, k4, k5⟩
      exact ⟨k1.trans h1, k2.trans h2, k3.trans h3, k4.trans h4, k5.trans h5⟩
    constructor
    · intro new member
      obtain ⟨middle, present, later⟩ := right.computes.origin new member
      obtain ⟨old, stored, earlier⟩ := left.computes.origin middle present
      exact ⟨old, stored, compose earlier later⟩
    · intro old member
      obtain ⟨middle, present, earlier⟩ := left.computes.image old member
      obtain ⟨new, stored, later⟩ := right.computes.image middle present
      exact ⟨new, stored, compose earlier later⟩

theorem Undisturbed.aside {after : World} (persists : Persists world after) (db : after.db = world.db)
    (provider : after.provider = world.provider) : Undisturbed world after := by
  refine ⟨persists, by rw [db], ?_, ?_⟩
  · rw [db]
    exact moved_refl _
  · rw [provider]
    exact Untouched.refl _

theorem Undisturbed.quiet {after : World} (quiet : Quiet world after) (db : after.db = world.db)
    (provider : after.provider = world.provider) (news : List Entry)
    (log : after.log = news ++ world.log) (noStart : ∀ id, ¬ Started news id) :
    Undisturbed world after :=
  Undisturbed.aside (quiet.persists (by rw [db]; exact Evolved.refl _) news log noStart) db provider

def SameInstances (before after : Database) : Prop :=
  after.serverInstances = before.serverInstances ∧ after.computeInstances = before.computeInstances

theorem client_tables {op : DbOp} (client : clientStatement op = true) (db : Database) :
    SameInstances db (op.query db).2 := by
  have same : SameInstances db db := ⟨rfl, rfl⟩
  have update : ∀ {selects set}, SameInstances db (touchedOne (updateServers selects set) db).2 :=
    touchedOne_keeps same fun _ => ⟨rfl, rfl⟩
  cases op with
  | createServer server =>
    refine binding_keeps same ?_
    dsimp only
    split
    · exact ⟨rfl, rfl⟩
    · exact same
    · exact same
  | updateDesiredState server previous => exact binding_keeps same (binding_keeps same update)
  | updateSpec server previous => exact binding_keeps same (binding_keeps same update)
  | archiveServer server previous =>
    simp only [DbOp.query, ServerRepository.archive]
    split
    · exact same
    · exact binding_keeps same (binding_keeps same update)
  | getServer | getServerByName | hasActiveInstance => exact same
  | _ => cases client

theorem updateComputes_moved (db : Database) {related : ComputeRow → ComputeRow → Prop}
    {selects : ComputeRow → Bool} {set : ComputeRow → ComputeRow} (same : ∀ row, related row row)
    (changed : ∀ row, selects row = true → related row (set row)) :
    (touchedOne (updateComputes selects set) db).2.serverInstances = db.serverInstances ∧
      Table.Moved related db.computeInstances (touchedOne (updateComputes selects set) db).2.computeInstances :=
  @touchedOne_keeps _ _ _ _ (fun after => after.serverInstances = db.serverInstances ∧
    Table.Moved related db.computeInstances after.computeInstances) _ _ db
    ⟨rfl, fun row member => ⟨row, member, same row⟩, fun row member => ⟨row, member, same row⟩⟩
    fun _ => ⟨rfl, Table.update_moved same fun row _ chosen => changed row chosen⟩

theorem updateComputes_keeps (db : Database) {selects : ComputeRow → Bool}
    {set : ComputeRow → ComputeRow} (kept : ∀ row, SameAllocation row (set row)) :
    (touchedOne (updateComputes selects set) db).2.serverInstances = db.serverInstances ∧
      Table.Moved SameAllocation db.computeInstances
        (touchedOne (updateComputes selects set) db).2.computeInstances :=
  updateComputes_moved db sameAllocation_refl fun row _ => kept row

theorem connection_tables {op : DbOp} (connection : connectionStatement op = true) (db : Database) :
    (op.query db).2.serverInstances = db.serverInstances ∧
      Table.Moved SameAllocation db.computeInstances (op.query db).2.computeInstances := by
  cases op with
  | recordAgentCertificate id token certificate =>
    exact updateComputes_keeps db fun row => ⟨rfl, rfl, rfl, rfl, rfl⟩
  | authenticateAgent id provider token der now =>
    cases provider with
    | localProcess => exact updateComputes_keeps db fun row => ⟨rfl, rfl, rfl, rfl, rfl⟩
    | akamai =>
      cases der with
      | none => exact ⟨rfl, moved_refl _⟩
      | some der => exact updateComputes_keeps db fun row => ⟨rfl, rfl, rfl, rfl, rfl⟩
  | getAgentEnrollment | getCompute | getInstance => exact ⟨rfl, moved_refl _⟩
  | _ => cases connection

theorem execDb_undisturbed (inv : Inv setup policy world) {op : DbOp} (allowed : op.Allowed world.db)
    (instances : (op.query world.db).2.serverInstances = world.db.serverInstances)
    (computes : Table.Moved SameAllocation world.db.computeInstances
      (op.query world.db).2.computeInstances) (choice : Choice) :
    Undisturbed world (execDb op choice world).2 := by
  rcases execDb_cases op choice world with failed | ⟨done, -⟩
  · rw [failed]
    exact Undisturbed.quiet (Quiet.same rfl rfl) rfl rfl [] rfl (by simp [Started])
  · rw [done]
    exact ⟨applied_persists inv allowed, instances, computes, Untouched.refl _⟩

theorem client_undisturbed (inv : Inv setup policy world) {op : Op}
    (guard : clientGuard setup policy world op) (choice : Choice) :
    Undisturbed world (exec op choice world).2 := by
  cases op with
  | db op =>
    obtain ⟨instances, computes⟩ := client_tables guard.2 world.db
    refine execDb_undisturbed inv guard.1.1 instances ?_ choice
    rw [computes]
    exact moved_refl _
  | clock | newUuid | begin => exact Undisturbed.refl world
  | reply since request result =>
    exact Undisturbed.quiet (Quiet.same rfl rfl) rfl rfl [.replied request result (world.window since)]
      rfl (by simp [Started, isStartOf])
  | _ => exact guard.elim

theorem Undisturbed.setLink {compute : ComputeInstanceId} {link : Link}
    (queue : link.queue.Sublist (world.links compute).queue)
    (answers : link.answers ⊆ (world.links compute).answers) :
    Undisturbed world (world.setLink compute link) :=
  Undisturbed.quiet (quiet_setLink queue answers) rfl rfl [] rfl (by simp [Started])

theorem connection_undisturbed (inv : Inv setup policy world) {op : Op}
    (guard : connectionGuard setup policy world op) (choice : Choice) :
    Undisturbed world (exec op choice world).2 := by
  have noted : ∀ entry, (∀ id, isStartOf id entry = false) →
      Undisturbed world (world.note [entry]) := fun entry noStart =>
    Undisturbed.quiet (Quiet.same rfl rfl) rfl rfl [entry] rfl (by simp [Started, noStart])
  cases op with
  | db op =>
    obtain ⟨instances, computes⟩ := connection_tables guard.2 world.db
    exact execDb_undisturbed inv guard.1.1 instances computes choice
  | clock | begin | openssl => exact Undisturbed.refl world
  | link op =>
    cases op with
    | accept => exact Undisturbed.quiet (Quiet.same rfl rfl) rfl rfl [] rfl (by simp [Started])
    | register compute connection =>
      simp only [exec, execLink]
      split
      · exact Undisturbed.setLink (List.nil_sublist _) (List.Subset.refl _)
      · exact Undisturbed.setLink (List.Sublist.refl _) (List.Subset.refl _)
    | endSession compute connection =>
      exact Undisturbed.setLink (List.Sublist.refl _) (List.Subset.refl _)
    | unregister compute connection =>
      exact Undisturbed.setLink (List.Sublist.refl _) (List.Subset.refl _)
    | _ => exact guard.elim
  | issueCredentials compute keyPrefix ttl =>
    simp only [exec]
    split
    · exact Undisturbed.refl world
    · exact noted _ fun _ => rfl
  | respond since request der response =>
    simp only [exec]
    split
    · exact noted _ fun _ => rfl
    · exact Undisturbed.refl world
    · exact noted _ fun _ => rfl
  | _ => exact guard.elim

theorem vmVanishes_undisturbed (world : World) (id : Nat) : Undisturbed world (vmVanishes id world) := by
  unfold vmVanishes
  split
  · exact Undisturbed.refl world
  · rename_i vm found
    exact ⟨(vanished_persists world vm id).2, by simp, by simpa using moved_refl _, Untouched.delete _ id⟩

theorem foreignVmAppears_undisturbed (world : World) (vm : ProviderInstance) :
    Undisturbed world (foreignVmAppears vm world) := by
  unfold foreignVmAppears
  split
  · rename_i appears
    simp only [Bool.and_eq_true, decide_eq_true_eq] at appears
    refine ⟨Quiet.persists (Quiet.same rfl rfl) (Evolved.refl world.db) [] rfl (by simp [Started]), rfl,
      moved_refl _, fun other member => ?_, Nat.le_succ _⟩
    rcases List.mem_append.mp member with old | single
    · exact .inl old
    · rw [List.mem_singleton.mp single]
      exact .inr ⟨le_refl _, appears.1⟩
  · exact Undisturbed.refl world

theorem environment_undisturbed (world : World) (action : Action) :
    Undisturbed world (environment setup action world) := by
  have rehosted : ∀ {compute host}, Known (world.hosts compute).lastSnapshotId host.lastSnapshotId →
      Undisturbed world (world.setHost compute host) := fun known =>
    Undisturbed.quiet (quiet_setHost known) rfl rfl [] rfl (by simp [Started])
  have altered : ∀ {machine}, Undisturbed world { world with machine } :=
    Undisturbed.quiet (Quiet.same rfl rfl) rfl rfl [] rfl (by simp [Started])
  cases action with
  | agentExecutes compute choices =>
    simp only [environment]
    rcases @agentExecutes_cases setup compute choices world with
      idle | ⟨exchange, rest, progress, node, queue, -, done⟩
    · rw [idle]
      exact Undisturbed.refl world
    · rw [done]
      exact Undisturbed.aside (worked_persists queue) rfl rfl
  | agentRestarts compute => exact Undisturbed.setLink (List.nil_sublist _) (List.Subset.refl _)
  | containerExits compute id => exact rehosted fun _ known => known
  | serverWrites compute content => exact rehosted fun _ known => known
  | processEnds processId => exact altered
  | machineReboots bootId => exact altered
  | vmVanishes id => exact vmVanishes_undisturbed world id
  | foreignVmAppears vm => exact foreignVmAppears_undisturbed world vm

end Undisturbed

section Contract

variable (setup : Setup) (policy : Policy setup)

theorem exec_keeps (thread : Thread) (op : Op) (choice : Choice) (world : World)
    (inv : Inv setup policy world) (guard : (contract setup policy).Guard thread op world) :
    Inv setup policy (exec op choice world).2 := by
  cases thread with
  | worker => exact worker_keeps inv guard choice
  | client number => exact client_keeps inv guard choice
  | connection number => exact connection_keeps inv guard choice

theorem exec_relies (thread other : Thread) (op : Op) (choice : Choice) (world : World)
    (different : other ≠ thread) (inv : Inv setup policy world)
    (guard : (contract setup policy).Guard thread op world) :
    (contract setup policy).Rely other world (exec op choice world).2 := by
  cases other with
  | worker =>
    cases thread with
    | worker => exact absurd rfl different
    | client number => exact ⟨client_undisturbed inv guard choice, exec_extends world choice op⟩
    | connection number =>
      exact ⟨connection_undisturbed inv guard choice, exec_extends world choice op⟩
  | client number => exact exec_extends world choice op
  | connection number => exact exec_extends world choice op

theorem environment_relies (thread : Thread) (action : Action) (world : World) :
    (contract setup policy).Rely thread world (environment setup action world) := by
  cases thread with
  | worker => exact ⟨environment_undisturbed world action, environment_extends world setup action⟩
  | client number => exact environment_extends world setup action
  | connection number => exact environment_extends world setup action

theorem rely_refl (thread : Thread) (world : World) : (contract setup policy).Rely thread world world := by
  cases thread with
  | worker => exact ⟨Undisturbed.refl world, Extends.refl world⟩
  | client number => exact Extends.refl world
  | connection number => exact Extends.refl world

theorem rely_trans (thread : Thread) (first second third : World)
    (left : (contract setup policy).Rely thread first second)
    (right : (contract setup policy).Rely thread second third) :
    (contract setup policy).Rely thread first third := by
  cases thread with
  | worker => exact ⟨left.1.trans right.1, left.2.trans right.2⟩
  | client number => exact Extends.trans left right
  | connection number => exact Extends.trans left right

end Contract

end McServer.System
