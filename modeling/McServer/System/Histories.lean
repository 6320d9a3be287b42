import McServer.System.Soundness
import McServer.System.Changes

set_option autoImplicit false

namespace McServer.System

open Domain Store Agent ControlPlane Interleaving

structure SameTables (before after : World) : Prop where
  db : after.db = before.db
  past : after.past = before.past

section Aside

variable (world : World) (choice : Choice)

theorem execProvider_aside (op : ProviderOp) : SameTables world (execProvider op choice world).2 := by
  have settled : SameTables world
      (settleProvider op (world.provider.apply op choice.answers).2 world) := by
    unfold settleProvider
    dsimp only
    split
    · split
      · constructor <;> simp [World.note]
      · exact ⟨rfl, rfl⟩
    · exact ⟨rfl, rfl⟩
    · exact ⟨rfl, rfl⟩
  unfold execProvider
  dsimp only
  split
  · exact ⟨rfl, rfl⟩
  · split
    · exact settled
    · exact ⟨rfl, rfl⟩
    · exact settled

theorem execLocal_aside (op : LocalOp) : SameTables world (execLocal op choice world).2 := by
  have applied : SameTables world (applyLocal op choice world).2 := by
    cases op with
    | tryWaitChild compute =>
      simp only [applyLocal]
      split
      · exact ⟨rfl, rfl⟩
      · split <;> exact ⟨rfl, rfl⟩
    | signal processId name =>
      simp only [applyLocal]
      split <;> exact ⟨rfl, rfl⟩
    | _ => exact ⟨rfl, rfl⟩
  unfold execLocal
  dsimp only
  split
  · exact applied
  · exact ⟨rfl, rfl⟩
  · exact applied

theorem execLink_aside (op : LinkOp) : SameTables world (execLink op choice world).2 := by
  cases op with
  | send compute command =>
    simp only [execLink]
    rcases execSend_cases compute command world with ⟨error, failed⟩ | unread | sent
    · rw [failed]
      exact ⟨rfl, rfl⟩
    · rw [unread]
      exact ⟨rfl, rfl⟩
    · rw [sent]
      exact ⟨rfl, rfl⟩
  | await compute exchange =>
    simp only [execLink]
    rcases execAwait_cases compute exchange choice world with ⟨result, done, -⟩ | ⟨error, given, failed⟩
    · rw [done]
      exact ⟨rfl, rfl⟩
    · rw [failed]
      exact ⟨rfl, rfl⟩
  | _ => exact ⟨rfl, rfl⟩

theorem environment_aside (setup : Setup) (action : Action) :
    SameTables world (environment setup action world) := by
  cases action with
  | agentExecutes compute choices =>
    simp only [environment]
    rcases @agentExecutes_cases setup compute choices world with
      idle | ⟨exchange, rest, progress, node, -, -, done⟩
    · rw [idle]
      exact ⟨rfl, rfl⟩
    · rw [done]
      exact ⟨rfl, rfl⟩
  | vmVanishes id =>
    simp only [environment, vmVanishes]
    split
    · exact ⟨rfl, rfl⟩
    · constructor <;> simp
  | foreignVmAppears vm =>
    simp only [environment, foreignVmAppears]
    split <;> exact ⟨rfl, rfl⟩
  | _ => exact ⟨rfl, rfl⟩

end Aside

-- An operation that is no statement leaves the database alone; a statement is carried out, or it
-- fails and is recorded as a state of its own.
inductive DatabaseStep (world : World) : Op → Database → List Database → Prop
  | aside (op : Op) : DatabaseStep world op world.db world.past
  | failed (statement : DbOp) : DatabaseStep world (.db statement) world.db (world.db :: world.past)
  | done (statement : DbOp) : DatabaseStep world (.db statement) (statement.query world.db).2
      ((statement.query world.db).2 :: world.past)

theorem exec_database (op : Op) (choice : Choice) (world : World) :
    DatabaseStep world op (exec op choice world).2.db (exec op choice world).2.past := by
  have aside : ∀ {after : World}, SameTables world after →
      DatabaseStep world op after.db after.past := by
    intro after same
    rw [same.db, same.past]
    exact .aside op
  cases op with
  | db statement =>
    simp only [exec]
    rcases execDb_cases statement choice world with failed | ⟨done, -⟩
    · rw [failed]
      exact .failed statement
    · rw [done]
      exact .done statement
  | provider op => exact aside (execProvider_aside world choice op)
  | machine op => exact aside (execLocal_aside world choice op)
  | link op => exact aside (execLink_aside world choice op)
  | issueCredentials compute keyPrefix ttl =>
    refine aside ?_
    simp only [exec]
    split <;> exact ⟨rfl, rfl⟩
  | respond since request der response =>
    refine aside ?_
    simp only [exec]
    split <;> exact ⟨rfl, rfl⟩
  | _ => exact aside ⟨rfl, rfl⟩

def onStatements (granted : DbOp → World → Prop) : Op → World → Prop
  | .db statement, world => granted statement world
  | _, _ => True

instance (granted : DbOp → World → Prop) [∀ statement world, Decidable (granted statement world)] :
    ∀ op world, Decidable (onStatements granted op world)
  | .db statement, world => inferInstanceAs (Decidable (granted statement world))
  | .clock, _ | .newUuid, _ | .provider _, _ | .machine _, _ | .link _, _ | .readBounded _ _, _
  | .openssl _ _, _ | .issueCredentials _ _ _, _ | .begin, _ | .reply _ _ _, _
  | .respond _ _ _ _, _ => .isTrue trivial

section Runs

variable {setup : Setup} {policy : Policy setup}

theorem issuable_of_guard {thread : Thread} {statement : DbOp} {world : World}
    (guard : (contract setup policy).Guard thread (.db statement) world) :
    Issuable setup policy world statement := by
  cases thread with
  | worker => exact guard
  | client number => exact guard.1
  | connection number => exact guard.1

theorem run_database (holds : Database → List Database → Prop) (granted : DbOp → World → Prop)
    (step : ∀ statement world, Inv setup policy world → Issuable setup policy world statement →
      granted statement world → holds world.db world.past →
      holds (statement.query world.db).2 ((statement.query world.db).2 :: world.past))
    (again : ∀ world, Inv setup policy world → holds world.db world.past →
      holds world.db (world.db :: world.past))
    {run : Run} (admitted : Admitted policy run) {config : Config Thread Op Op.Res World}
    (along : (machine setup).Along (Event.Granted (onStatements granted)) run config)
    (respected : Sound.Respected (machine setup) (contract setup policy) config)
    (initially : holds config.state.db config.state.past) :
    holds ((machine setup).run run config).state.db ((machine setup).run run config).state.past := by
  refine (sound setup policy).run_invariant (fun world => holds world.db world.past)
    (onStatements granted) ?_ ?_ (fun _ _ held => held) admitted along respected initially
  · intro thread op choice world inv guard allowed held
    have step' := exec_database op choice world
    change holds (exec op choice world).2.db (exec op choice world).2.past
    generalize (exec op choice world).2.db = db at step' ⊢
    generalize (exec op choice world).2.past = past at step' ⊢
    cases step' with
    | aside op => exact held
    | failed statement => exact again world inv held
    | done statement => exact step statement world inv (issuable_of_guard guard) allowed held
  · intro action world inv held
    have same := environment_aside world setup action
    change holds (environment setup action world).db (environment setup action world).past
    rw [same.db, same.past]
    exact held

theorem along_anything (run : Run) (config : Config Thread Op Op.Res World) :
    (machine setup).Along (Event.Granted (onStatements fun _ _ => True)) run config := by
  refine (machine setup).along_of_forall (fun event config => ?_) run config
  cases event with
  | advance thread choice =>
    intro op next waiting
    cases op <;> trivial
  | _ => trivial

theorem reached_database (setup : Setup) (holds : Database → List Database → Prop)
    (step : ∀ statement world, Inv setup (Policy.unrestricted setup) world →
      Issuable setup (Policy.unrestricted setup) world statement → holds world.db world.past →
      holds (statement.query world.db).2 ((statement.query world.db).2 :: world.past))
    (again : ∀ world, Inv setup (Policy.unrestricted setup) world → holds world.db world.past →
      holds world.db (world.db :: world.past))
    (initially : holds Database.empty [Database.empty]) (run : Run) :
    holds (reached setup run).state.db (reached setup run).state.past :=
  run_database holds (fun _ _ => True)
    (fun statement world inv issuable _ => step statement world inv issuable) again (admitted_unrestricted run)
    (along_anything run _) (initial_respected setup _) initially

def SameColumn {A : Type} (column : ServerRow → A) (db : Database) (past : List Database) : Prop :=
  ∀ state ∈ past, ∀ old ∈ state.servers, ∀ row ∈ db.servers, row.id = old.id → column row = column old

theorem SameColumn.after_statement {A : Type} {column : ServerRow → A} {world : World}
    {statement : DbOp} (held : SameColumn column world.db world.past) (inv : Inv setup policy world)
    (issuable : Issuable setup policy world statement)
    (kept : ∀ old ∈ world.db.servers, ∀ new, ServerChange statement world.db old new →
      column new = column old) :
    SameColumn column (statement.query world.db).2 ((statement.query world.db).2 :: world.past) := by
  have keyed := inv.history.current.keyed
  have unique := ((query_effect issuable.1).consistent issuable.1 inv.history.current).keyed.serverIds
  intro state recorded old member row stored sameId
  rcases List.mem_cons.mp recorded with rfl | earlier
  · rw [unique.eq_of_key stored member sameId]
  · rcases (query_servers statement keyed).origin row stored with ⟨middle, found, change⟩ | created
    · rw [kept middle found row change]
      exact held state earlier old member middle found (change.id.symm.trans sameId)
    · obtain ⟨now, present, evolved⟩ := (inv.history.since earlier).servers old member
      have apart := created.free now present
      simp [ServerRow.conflicts, sameId, evolved.id] at apart

theorem step_database {config : Config Thread Op Op.Res World}
    (respected : Sound.Respected (machine setup) (contract setup policy) config)
    (event : Event Thread Task Action Choice) :
    ((machine setup).step event config).state.db = config.state.db ∨
      ∃ statement, Issuable setup policy config.state statement ∧
        ((machine setup).step event config).state.db = (statement.query config.state.db).2 := by
  cases event with
  | advance thread choice =>
    simp only [Machine.step]
    split
    · exact .inl rfl
    · rename_i op next waiting
      have guard := (sound setup policy).respected_guard respected waiting
      have step' := exec_database op choice config.state
      change (exec op choice config.state).2.db = _ ∨ ∃ statement, _ ∧ (exec op choice config.state).2.db = _
      generalize (exec op choice config.state).2.db = db at step' ⊢
      generalize (exec op choice config.state).2.past = past at step'
      cases step' with
      | aside op => exact .inl rfl
      | failed statement => exact .inl rfl
      | done statement => exact .inr ⟨statement, issuable_of_guard guard, rfl⟩
  | start thread task =>
    simp only [Machine.step]
    split <;> exact .inl rfl
  | environment action => exact .inl (environment_aside config.state setup action).db
  | crash => exact .inl rfl

end Runs

theorem rows_keep_their_identity (setup : Setup) (run : Run) :
    (reached setup run).state.past.Pairwise fun newer older => Evolved older newer :=
  (reached_inv setup run).history.evolved

end McServer.System
