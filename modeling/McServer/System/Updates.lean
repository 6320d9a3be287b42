import McServer.System.Calls
import McServer.System.Histories

set_option autoImplicit false

namespace McServer.System

open Domain Store Agent ControlPlane Interleaving

section Steps

variable {setup : Setup} {policy : Policy setup}

def Untouching (step : Step) : Prop := (step.after exec).db.servers = step.before.db.servers

theorem Lost.untouching {step : Step} (inv : Inv setup policy step.before) (lost : Lost step) :
    Untouching step := by
  have keyed := inv.history.current.keyed.serverIds
  cases lost with
  | @spec server previous answered =>
    obtain ⟨answered, after⟩ := answered.query
    rw [Untouching, after]
    refine @guarded_unmoved _ _ _ _ _ server.id keyed (fun row chosen => ?_) answered
    simp only [Bool.and_eq_true, decide_eq_true_eq] at chosen
    exact chosen.1.1.1
  | @desiredState server previous answered =>
    obtain ⟨answered, after⟩ := answered.query
    rw [Untouching, after]
    refine @guarded_unmoved _ _ _ _ _ server.id keyed (fun row chosen => ?_) answered
    simp only [Bool.and_eq_true, decide_eq_true_eq] at chosen
    exact chosen.1.1
  | @archive server previous answered =>
    obtain ⟨answered, after⟩ := answered.query
    rw [Untouching, after]
    cases archived : server.archivedAt with
    | none =>
      simp only [DbOp.query, ServerRepository.archive, archived] at answered
      cases answered
    | some time =>
      simp only [DbOp.query, ServerRepository.archive, archived] at answered ⊢
      refine @guarded_unmoved _ _ _ _ _ server.id keyed (fun row chosen => ?_) answered
      simp only [Bool.and_eq_true, decide_eq_true_eq] at chosen
      exact chosen.1.1.1.1

theorem Harmless.untouching {step : Step} (inv : Inv setup policy step.before) (harmless : Harmless step) :
    Untouching step := by
  rcases harmless with looked | lost
  · obtain ⟨op, choice, before⟩ := step
    cases op with
    | db statement =>
      rcases execDb_cases statement choice before with failed | ⟨done, -⟩
      · simp only [Untouching, Took.after, exec, failed]
        rfl
      · simp only [Untouching, Took.after, exec, done]
        exact congrArg Database.servers (lookup_unchanged looked before.db)
    | clock | newUuid | begin => rfl
    | _ => cases looked
  · exact lost.untouching inv

theorem Replaces.stored {old server : Server} {step : Step} (replaced : Replaces old server step) :
    (server.generation = old.generation + 1 ∧ server.name = old.name) ∧
      Stored old server step.before.db (step.after exec).db := by
  cases replaced with
  | spec changed drafted answered =>
    subst drafted
    obtain ⟨answered, after⟩ := answered.query
    rw [after]
    obtain ⟨-, -, -, written⟩ := (Server.updateSpec_ok changed).resolve_left (by simp)
    exact ⟨by rw [written]; exact ⟨rfl, rfl⟩, updateSpec_stored changed answered⟩
  | desiredState changed drafted answered =>
    subst drafted
    obtain ⟨answered, after⟩ := answered.query
    rw [after]
    obtain ⟨-, -, -, written⟩ := (Server.setDesiredState_ok changed).resolve_left (by simp)
    exact ⟨by rw [written]; exact ⟨rfl, rfl⟩, updateDesiredState_stored changed answered⟩
  | archive changed drafted answered =>
    subst drafted
    obtain ⟨answered, after⟩ := answered.query
    rw [after]
    obtain ⟨-, -, -, written⟩ := (Server.archive_ok changed).resolve_left (by simp)
    exact ⟨by rw [written]; exact ⟨rfl, rfl⟩, archive_stored changed answered⟩

theorem Gives.row {name : ServerName} {server : Server} {step : Step}
    (answered : Gives (.getServerByName name) (some server) step) :
    ∃ row ∈ step.before.db.servers, row.name = name ∧ server = row.toServer :=
  getByName_some answered.query.1

theorem recorded_past {number : Nat} {step : Step} {earlier : List Step}
    (recorded : (contract setup policy).Recorded exec (.client number) (step :: earlier)) :
    ∀ older ∈ earlier, older.before.past <:+ step.before.past := by
  induction earlier generalizing step with
  | nil => exact fun _ member => nomatch member
  | cons last rest ih =>
    obtain ⟨-, -, since, before⟩ := recorded
    have reached : last.before.past <:+ step.before.past :=
      (exec_extends last.before last.choice last.op).past.trans (since last rfl).past
    intro older member
    rcases List.mem_cons.mp member with rfl | within
    · exact reached
    · exact (ih before older within).trans reached

theorem recorded_inv {thread : Thread} {steps : List Step}
    (recorded : (contract setup policy).Recorded exec thread steps) :
    ∀ step ∈ steps, Inv setup policy step.before :=
  fun step member => (recorded.mem step member).1

theorem recorded_db {number : Nat} {step read : Step} {earlier : List Step}
    (recorded : (contract setup policy).Recorded exec (.client number) (step :: earlier))
    (member : read ∈ earlier) : read.before.db ∈ step.before.past :=
  (recorded_past recorded read member).subset
    (current_mem (recorded_inv recorded read (List.mem_cons_of_mem step member)))

theorem recorded_since {number : Nat} {steps : List Step} {world : World}
    (recorded : (contract setup policy).Recorded exec (.client number) steps)
    (since : (contract setup policy).Since exec (.client number) steps world) :
    ∀ step ∈ steps, (step.after exec).past <:+ world.past := by
  induction steps generalizing world with
  | nil => exact fun _ member => nomatch member
  | cons last rest ih =>
    have reached := (since last rfl).past
    intro step member
    rcases List.mem_cons.mp member with rfl | within
    · exact reached
    · exact ((ih recorded.2.2.2 recorded.2.2.1 step within).trans
        (exec_extends last.before last.choice last.op).past).trans reached

theorem recorded_moment {number : Nat} {steps : List Step} {world : World}
    (recorded : (contract setup policy).Recorded exec (.client number) steps)
    (since : (contract setup policy).Since exec (.client number) steps world) {step : Step}
    (member : step ∈ steps) : step.before.db ∈ world.past ∧ (step.after exec).db ∈ world.past := by
  have reached := recorded_since recorded since step member
  obtain ⟨inv, guard⟩ := recorded.mem step member
  have later := exec_keeps setup policy (.client number) step.op step.choice step.before inv guard
  exact ⟨reached.subset ((exec_extends step.before step.choice step.op).past.subset (current_mem inv)),
    reached.subset (current_mem later)⟩

theorem snapshot_kept {step : Step} (inv : Inv setup policy step.before)
    (other : ∀ id token snapshotId now, step.op ≠ .db (.commitSnapshot id token snapshotId now))
    {old : ServerRow} (member : old ∈ step.before.db.servers) :
    ∃ new ∈ (step.after exec).db.servers, new.id = old.id ∧
      new.currentSnapshotId = old.currentSnapshotId := by
  obtain ⟨op, choice, before⟩ := step
  have moved := exec_database op choice before
  change ∃ new ∈ (exec op choice before).2.db.servers, _
  generalize (exec op choice before).2.db = db at moved ⊢
  generalize (exec op choice before).2.past = past at moved
  cases moved with
  | aside op => exact ⟨old, member, rfl, rfl⟩
  | failed statement => exact ⟨old, member, rfl, rfl⟩
  | done statement =>
    obtain ⟨new, stored, change⟩ := (query_servers statement inv.history.current.keyed).image old member
    refine ⟨new, stored, change.id, ?_⟩
    cases change with
    | published issued owner publishing => exact absurd (congrArg Op.db issued) (other _ _ _ _)
    | _ => rfl

end Steps

def LeftAlone (name : String) (generation : Nat) (server : Server) (steps : List Step) : Prop :=
  (∀ step ∈ steps, Untouching step) ∧ ∃ read ∈ steps, ∃ row ∈ read.before.db.servers,
    row.name.asStr = name ∧ row.generation = generation ∧ row.toServer = server

def MovedFrom (name : String) (generation : Nat) (server : Server) (steps : List Step) : Prop :=
  ∃ write earlier read, steps = write :: earlier ∧ (∀ step ∈ earlier, Untouching step) ∧
    read ∈ earlier ∧ ∃ row ∈ read.before.db.servers, row.name.asStr = name ∧
      row.generation = generation ∧
      (∃ between, write.before.past = between ++ read.before.past ∧ ∀ state ∈ between,
        ∃ same ∈ state.servers, same.id = row.id ∧ same.generation = generation ∧
          definition same.toServer = definition row.toServer) ∧
      (∃ old ∈ write.before.db.servers, old.id = row.id ∧ old.generation = generation ∧
        definition old.toServer = definition row.toServer) ∧
      server.generation = generation + 1 ∧ ∃ new ∈ (write.after exec).db.servers, new.id = row.id ∧
        new.generation = generation + 1 ∧ definition new.toServer = definition server

structure Optimistic (setup : Setup) (run : Run) : Prop where
  raised : (reached setup run).state.past.IsChain fun newer older => ∀ old ∈ older.servers,
    ∃ new ∈ newer.servers, new.id = old.id ∧
      (new.generation = old.generation ∧ definition new.toServer = definition old.toServer ∨
        new.generation = old.generation + 1)
  determined : ∀ first ∈ (reached setup run).state.past, ∀ second ∈ (reached setup run).state.past,
    ∀ row ∈ first.servers, ∀ other ∈ second.servers, row.id = other.id →
      row.generation = other.generation → definition row.toServer = definition other.toServer
  snapshots : ∀ thread, ∀ step ∈ stepsOf setup run thread,
    (∀ id token snapshotId now, step.op ≠ .db (.commitSnapshot id token snapshotId now)) →
      ∀ old ∈ step.before.db.servers, ∃ new ∈ (step.after exec).db.servers,
        new.id = old.id ∧ new.currentSnapshotId = old.currentSnapshotId
  answered : ∀ number request server,
    replying ((reached setup run).threads (.client number)) = some (request, .ok server) →
      ∀ generation, expectedGeneration request = some generation →
        LeftAlone (requestedName request) generation server (stepsOf setup run (.client number)) ∨
          MovedFrom (requestedName request) generation server (stepsOf setup run (.client number))
  conflicts : ∀ number request expected actual,
    replying ((reached setup run).threads (.client number)) =
      some (request, .error (.generationConflict expected actual)) → expected ≠ some actual

theorem determined_definition {setup : Setup} {policy : Policy setup} {world : World}
    (inv : Inv setup policy world) {first second : Database} (left : first ∈ world.past)
    (right : second ∈ world.past) {row other : ServerRow} (member : row ∈ first.servers)
    (present : other ∈ second.servers) (sameId : row.id = other.id)
    (same : row.generation = other.generation) : definition row.toServer = definition other.toServer := by
  -- Of two recorded states the one has grown out of the other.
  have pairs : world.past.Pairwise fun newer older => Evolved newer older ∨ Evolved older newer :=
    inv.history.evolved.imp Or.inr
  have : Std.Symm fun newer older => Evolved newer older ∨ Evolved older newer := ⟨fun _ _ => Or.symm⟩
  have ordered : Evolved first second ∨ Evolved second first :=
    pairs.forall_of_forall (fun state _ => .inl (Evolved.refl state)) left right
  rcases ordered with evolved | evolved
  · obtain ⟨new, stored, step⟩ := evolved.servers row member
    obtain rfl := (inv.history.consistent second right).keyed.serverIds.eq_of_key stored present
      (step.id.trans sameId)
    exact (step.unchanged same.symm).symm
  · obtain ⟨new, stored, step⟩ := evolved.servers other present
    obtain rfl := (inv.history.consistent first left).keyed.serverIds.eq_of_key stored member
      (step.id.trans sameId.symm)
    exact step.unchanged same

theorem Did.explained {setup : Setup} {policy : Policy setup} {number : Nat} {request : ClientRequest}
    {steps : List Step} {server : Server} (did : Did request steps server)
    (recorded : (contract setup policy).Recorded exec (.client number) steps) {generation : Nat}
    (expected : expectedGeneration request = some generation) :
    LeftAlone (requestedName request) generation server steps ∨
      MovedFrom (requestedName request) generation server steps := by
  have invs := recorded_inv recorded
  cases did with
  | @kept name read parsed member answered harmless stated =>
    obtain ⟨row, stored, named, rfl⟩ := answered.row
    refine .inl ⟨fun step taken => (harmless step taken).untouching (invs step taken), read, member, row,
      stored, ?_, (stated generation expected).symm, rfl⟩
    rw [named]
    exact ServerName.new_ok parsed
  | @wrote name read write earlier old parsed split member answered replaced harmless stated =>
    subst split
    obtain ⟨row, stored, named, rfl⟩ := answered.row
    obtain rfl := stated generation expected
    obtain ⟨⟨next, -⟩, now, present, ⟨sameId, atRead⟩, new, written, ⟨newId, -⟩, newGeneration, drafted⟩ :=
      replaced.stored
    have inv := invs write List.mem_cons_self
    obtain ⟨between, whole⟩ := recorded_past recorded read member
    have kept := recorded_db recorded member
    have readInv := invs read (List.mem_cons_of_mem _ member)
    have unmoved := unchanged_between inv whole.symm (current_mem readInv) stored present sameId atRead
    have sameDefinition := determined_definition inv (current_mem inv) kept present stored sameId atRead
    refine .inr ⟨write, earlier, read, rfl, ?_, member, row, stored, ?_, rfl, ⟨between, whole.symm, unmoved⟩,
      ⟨now, present, sameId, atRead, sameDefinition⟩, next, new, written, newId.trans sameId,
      newGeneration.trans next, drafted sameDefinition⟩
    · intro step taken
      have before := List.mem_cons_of_mem write taken
      exact (harmless step taken).untouching (invs step before)
    · rw [named]
      exact ServerName.new_ok parsed
  | created split answered harmless named free =>
    rw [free] at expected
    cases expected

theorem optimistic_updates_lose_nothing (setup : Setup) (run : Run) : Optimistic setup run := by
  have respected := reached_respected (Policy.unrestricted setup) (admitted_unrestricted run)
  have traced := fun thread => (reached_traced _ (admitted_unrestricted run) thread : Sound.Traced
    (machine setup) (contract setup (Policy.unrestricted setup)) _ thread (stepsOf setup run thread))
  constructor
  · exact respected.1.history.steps.imp fun _ _ advance old member =>
      (advance old member).imp fun _ found => ⟨found.1, found.2.id, found.2.generation⟩
  · exact fun first left second right row member other present sameId same =>
      determined_definition respected.1 left right member present sameId same
  · intro thread step taken other old member
    exact snapshot_kept (recorded_inv (traced thread).recorded step taken) other member
  · intro number request server replies generation expected
    obtain ⟨since, next, waiting⟩ := of_replying replies
    obtain ⟨asked, rfl, did, -⟩ := reached_showing waiting
    exact did.explained (traced (.client number)).recorded expected
  · intro number request expected actual replies
    obtain ⟨since, next, waiting⟩ := of_replying replies
    exact ((sound setup _).respected_guard respected waiting).2

end McServer.System
