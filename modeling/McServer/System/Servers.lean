import McServer.System.Histories
import McServer.System.Publication

set_option autoImplicit false

namespace McServer.System

open Domain Store Agent ControlPlane Interleaving

structure AtRest (db : Database) (server : ServerRow) : Prop where
  stored : server ∈ db.servers
  stopped : server.desiredState = .stopped
  idle : db.hasActiveInstance server.id = false

section Archiving

variable {setup : Setup} {policy : Policy setup} {world : World} {statement : DbOp}

theorem AtRest.after_statement {server : ServerRow} (rest : AtRest world.db server)
    (archived : server.archivedAt.isSome) (inv : Inv setup policy world)
    (issuable : Issuable setup policy world statement) :
    AtRest (statement.query world.db).2 server := by
  have keyed := inv.history.current.keyed
  have effect := query_effect issuable.1
  obtain ⟨new, stored, change⟩ := (query_servers statement keyed).image server rest.stored
  have same : new = server := by
    cases change with
    | kept => rfl
    | redirected issued named read unarchived => simp [unarchived] at archived
    | respecified issued named read stopped unarchived => simp [unarchived] at archived
    | archived issued named read stopped unarchived => simp [unarchived] at archived
    | numbered issued wanted =>
      rw [rest.stopped] at wanted
      cases wanted
    | published issued owner publishing =>
      have gone := hasActiveInstance_false rest.idle _ publishing.member owner
      simp [publishing.active] at gone
  subst same
  obtain ⟨other, present, evolved⟩ := (effect.evolved keyed).servers new rest.stored
  have unique := (effect.consistent issuable.1 inv.history.current).keyed.serverIds
  rw [unique.eq_of_key present stored evolved.id] at evolved
  exact ⟨stored, rest.stopped, evolved.idle rfl rest.stopped rest.idle⟩

theorem archived_by_statement (inv : Inv setup policy world)
    (issuable : Issuable setup policy world statement) {new : ServerRow}
    (member : new ∈ (statement.query world.db).2.servers) (archived : new.archivedAt.isSome) :
    (∃ old ∈ world.db.servers, old.id = new.id ∧ old.archivedAt.isSome) ∨
      new.desiredState = .stopped ∧ world.db.hasActiveInstance new.id = false ∧
        (statement.query world.db).2.serverInstances = world.db.serverInstances ∧
        ∃ old ∈ world.db.servers, old.id = new.id ∧ old.desiredState = .stopped := by
  rcases (query_servers statement inv.history.current.keyed).origin new member with
    ⟨old, present, change⟩ | created
  · cases change with
    | kept => exact .inl ⟨new, present, rfl, archived⟩
    | redirected | respecified | numbered | published => exact .inl ⟨old, present, rfl, archived⟩
    | archived issued named read stopped unarchived idle =>
      subst issued
      exact .inr ⟨stopped, idle, (client_tables rfl world.db).1, old, present, rfl, stopped⟩
  · have drafted := issuable.2.2
    rw [created.issued] at drafted
    obtain ⟨id, name, spec, now, made⟩ := drafted
    rw [(Server.new_ok made).2] at archived
    cases archived

theorem archived_at_rest (setup : Setup) (run : Run) :
    ∀ server ∈ (reached setup run).state.db.servers, server.archivedAt.isSome →
      AtRest (reached setup run).state.db server := by
  refine reached_database setup
    (fun db _ => ∀ server ∈ db.servers, server.archivedAt.isSome → AtRest db server) ?_
    (fun _ _ held => held) (by simp [Database.empty]) run
  intro statement world inv issuable held server member archived
  have unique := ((query_effect issuable.1).consistent issuable.1 inv.history.current).keyed.serverIds
  rcases archived_by_statement inv issuable member archived with
    ⟨old, present, sameId, before⟩ | ⟨stopped, idle, same, -⟩
  · have rest := (held old present before).after_statement before inv issuable
    rwa [unique.eq_of_key rest.stored member sameId] at rest
  · refine ⟨member, stopped, ?_⟩
    unfold Database.hasActiveInstance
    rw [same]
    exact idle

theorem AtRest.run {server : ServerRow} {config : Config Thread Op Op.Res World}
    (rest : AtRest config.state.db server) (archived : server.archivedAt.isSome)
    (respected : Sound.Respected (machine setup) (contract setup (Policy.unrestricted setup)) config)
    (later : Run) : AtRest ((machine setup).run later config).state.db server :=
  run_database (fun db _ => AtRest db server) (fun _ _ => True)
    (fun _ _ inv issuable _ held => held.after_statement archived inv issuable) (fun _ _ held => held)
    (admitted_unrestricted later) (along_anything later config) respected rest

theorem AtRest.no_compute {server : ServerRow} {db : Database} (rest : AtRest db server)
    (consistent : Consistent db) {row : ServerInstance} (member : row ∈ db.serverInstances)
    (owned : row.serverId = server.id) : db.hasActiveCompute row.id = false := by
  refine List.any_eq_false.mpr fun compute present active => ?_
  simp only [Bool.and_eq_true, decide_eq_true_eq, Option.isNone_iff_eq_none] at active
  obtain ⟨owner, stored, named, running, -⟩ := consistent.allocation.owner compute present
  rw [consistent.keyed.instanceIds.eq_of_key stored member (named.trans active.1)] at running
  have gone := hasActiveInstance_false rest.idle row member owned
  simp [running active.2] at gone

end Archiving

theorem archiving_is_final (setup : Setup) (run : Run) :
    (∀ event, ∀ old ∈ (reached setup run).state.db.servers, old.archivedAt = none →
      ∀ new ∈ (reached setup (run ++ [event])).state.db.servers, new.id = old.id →
      new.archivedAt.isSome → old.desiredState = .stopped ∧
        (reached setup run).state.db.hasActiveInstance old.id = false) ∧
    ∀ server ∈ (reached setup run).state.db.servers, server.archivedAt.isSome → ∀ later : Run,
      AtRest (reached setup (run ++ later)).state.db server ∧
      (∀ row ∈ (reached setup (run ++ later)).state.db.serverInstances, row.serverId = server.id →
        (reached setup (run ++ later)).state.db.hasActiveCompute row.id = false) ∧
      ∀ other ∈ (reached setup (run ++ later)).state.db.servers, other.name = server.name → other = server := by
  have respected := reached_respected (Policy.unrestricted setup) (admitted_unrestricted run)
  have keyed := respected.1.history.current.keyed
  refine ⟨fun event old member unarchived new stored sameId archived => ?_,
    fun server member archived later => ?_⟩
  · have clash : ∀ other ∈ (reached setup run).state.db.servers, other.id = new.id →
        other.archivedAt.isSome → False := by
      intro other present same before
      rw [keyed.serverIds.eq_of_key present member (same.trans sameId), unarchived] at before
      cases before
    rw [reached, Machine.run_append] at stored
    rcases step_database respected event with same | ⟨statement, issuable, done⟩
    · exact (clash new (same ▸ stored) rfl archived).elim
    · rcases archived_by_statement respected.1 issuable (done ▸ stored) archived with
        ⟨other, present, same, before⟩ | ⟨-, idle, -, other, present, same, stopped⟩
      · exact (clash other present same before).elim
      · rw [keyed.serverIds.eq_of_key present member (same.trans sameId)] at stopped
        rw [← sameId]
        exact ⟨stopped, idle⟩
  · have rest : AtRest (reached setup (run ++ later)).state.db server := by
      rw [reached, Machine.run_append]
      exact (archived_at_rest setup run server member archived).run archived respected later
    have consistent := (reached_inv setup (run ++ later)).history.current
    exact ⟨rest, fun row present owned => rest.no_compute consistent present owned,
      fun other present same => consistent.keyed.serverNames.eq_of_key present rest.stored same⟩

structure ReadFrom (world : World) (server : Server) (previous : Nat) (read : ServerRow) : Prop where
  stored : ∃ state ∈ world.past, read ∈ state.servers
  generation : read.generation = previous
  id : server.id = read.id
  snapshot : server.currentSnapshotId = read.currentSnapshotId
  created : server.createdAt = read.createdAt
  updated : read.updatedAt ≤ server.updatedAt

section Times

variable {setup : Setup} {policy : Policy setup} {world : World} {server : Server} {previous : Nat}

theorem readFrom_updateDesiredState (drafted : Drafted world (.updateDesiredState server previous)) :
    ∃ read, ReadFrom world server previous read := by
  obtain ⟨state, kept, read, member, generation, desired, now, changed, rfl⟩ := drafted
  obtain ⟨-, -, -, written⟩ := (Server.setDesiredState_ok changed).resolve_left (by simp)
  rw [written]
  exact ⟨read, ⟨state, kept, member⟩, generation, rfl, rfl, rfl, le_max_left _ _⟩

theorem readFrom_updateSpec (drafted : Drafted world (.updateSpec server previous)) :
    ∃ read, ReadFrom world server previous read := by
  obtain ⟨state, kept, read, member, generation, spec, now, -, changed, rfl⟩ := drafted
  obtain ⟨-, -, -, written⟩ := (Server.updateSpec_ok changed).resolve_left (by simp)
  rw [written]
  exact ⟨read, ⟨state, kept, member⟩, generation, rfl, rfl, rfl, le_max_left _ _⟩

theorem readFrom_archiveServer (drafted : Drafted world (.archiveServer server previous)) :
    ∃ read, ReadFrom world server previous read := by
  obtain ⟨state, kept, read, member, generation, now, changed, rfl⟩ := drafted
  obtain ⟨-, -, -, written⟩ := (Server.archive_ok changed).resolve_left (by simp)
  rw [written]
  exact ⟨read, ⟨state, kept, member⟩, generation, rfl, rfl, rfl, le_max_left _ _⟩

end Times

def Dated (db : Database) (past : List Database) : Prop :=
  ∀ state ∈ past, ∀ old ∈ state.servers, ∀ row ∈ db.servers, row.id = old.id →
    row.generation = old.generation → row.currentSnapshotId = old.currentSnapshotId →
      row.updatedAt = old.updatedAt

def NotEarlier (before after : Database) : Prop :=
  ∀ old ∈ before.servers, ∃ new ∈ after.servers, new.id = old.id ∧ old.updatedAt ≤ new.updatedAt

def SeesSnapshot : DbOp → World → Prop
  | .updateDesiredState server previous, world | .updateSpec server previous, world
  | .archiveServer server previous, world => ∀ row ∈ world.db.servers, row.id = server.id →
      row.generation = previous → row.currentSnapshotId = server.currentSnapshotId
  | _, _ => True

instance (statement : DbOp) (world : World) : Decidable (SeesSnapshot statement world) := by
  unfold SeesSnapshot
  split <;> infer_instance

section Times

variable {setup : Setup} {policy : Policy setup} {world : World} {statement : DbOp}

theorem History.snapshot_on_record {db : Database} {past : List Database} (history : History db past)
    {state : Database} (kept : state ∈ past) {old : ServerRow} (member : old ∈ state.servers)
    {snapshotId : String} (current : old.currentSnapshotId = some snapshotId) :
    ∃ snapshot ∈ db.snapshots, snapshot.serverId = old.id ∧ snapshot.id = snapshotId := by
  have last := (history.consistent state kept).lineage.current old member
  rw [current] at last
  obtain ⟨row, ⟨present, owner, -, published⟩, result, -⟩ := last
  obtain ⟨new, stored, evolved⟩ := (history.since kept).instances row present
  obtain ⟨snapshot, recorded, named, -, owned, -⟩ := history.current.lineage.instanceSnapshot new stored
    snapshotId ((evolved.result published).trans result)
  exact ⟨snapshot, recorded, owned.trans (evolved.server.trans owner), named⟩

theorem Dated.after_statement (dated : Dated world.db world.past) (inv : Inv setup policy world)
    (issuable : Issuable setup policy world statement) :
    Dated (statement.query world.db).2 ((statement.query world.db).2 :: world.past) := by
  have keyed := inv.history.current.keyed
  have effect := query_effect issuable.1
  have unique := (effect.consistent issuable.1 inv.history.current).keyed.serverIds
  intro state kept old member row stored sameId sameGeneration sameSnapshot
  rcases List.mem_cons.mp kept with rfl | earlier
  · rw [unique.eq_of_key stored member sameId]
  · obtain ⟨now, present, evolved⟩ := (inv.history.since earlier).servers old member
    rcases (query_servers statement keyed).origin row stored with ⟨middle, found, change⟩ | created
    · have same : now = middle :=
        keyed.serverIds.eq_of_key present found (evolved.id.trans (sameId.symm.trans change.id))
      subst same
      have below := evolved.generation
      have allowed := issuable.1
      cases change with
      | kept => exact dated state earlier old member row found sameId sameGeneration sameSnapshot
      | numbered => exact dated state earlier old member now found sameId sameGeneration sameSnapshot
      -- A new generation is greater than every one before.
      | redirected issued named read | respecified issued named read | archived issued named read =>
        subst issued
        simp only [DbOp.Allowed] at allowed
        simp only at sameGeneration
        omega
      | published issued owner publishing =>
        obtain ⟨snapshot, recorded, owned, named⟩ :=
          History.snapshot_on_record inv.history earlier member sameSnapshot.symm
        exact (publishing.fresh snapshot recorded (owned.trans (sameId.symm.trans owner.symm)) named).elim
    · have apart := created.free now present
      simp [ServerRow.conflicts, sameId, evolved.id] at apart

theorem notEarlier_after_statement (dated : Dated world.db world.past) (inv : Inv setup policy world)
    (issuable : Issuable setup policy world statement) (seen : SeesSnapshot statement world) :
    NotEarlier world.db (statement.query world.db).2 := by
  intro old member
  obtain ⟨new, stored, change⟩ := (query_servers statement inv.history.current.keyed).image old member
  refine ⟨new, stored, change.id, ?_⟩
  have written : ∀ {server : Server} {previous : Nat}, (∃ read, ReadFrom world server previous read) →
      server.id = old.id → old.generation = previous →
      old.currentSnapshotId = server.currentSnapshotId → old.updatedAt ≤ server.updatedAt := by
    rintro server previous ⟨read, ⟨state, kept, present⟩, generation, id, snapshot, -, updated⟩ named
      current sameSnapshot
    rwa [dated state kept read present old member (named.symm.trans id) (current.trans generation.symm)
      (sameSnapshot.trans snapshot)]
  have drafted := issuable.2.2
  cases change with
  | kept | numbered => exact le_refl _
  | redirected issued named read =>
    subst issued
    have bound := written (readFrom_updateDesiredState drafted) named read (seen old member named.symm read)
    exact bound
  | respecified issued named read =>
    subst issued
    have bound := written (readFrom_updateSpec drafted) named read (seen old member named.symm read)
    exact bound
  | archived issued named read =>
    subst issued
    have bound := written (readFrom_archiveServer drafted) named read (seen old member named.symm read)
    exact bound
  | published => exact le_trans (le_max_left _ _) (le_max_right _ _)

end Times

theorem modification_time_never_falls (setup : Setup) (run : Run)
    (along : (machine setup).Along (Event.Granted (onStatements SeesSnapshot)) run (Machine.idle initial)) :
    (reached setup run).state.past.IsChain fun newer older => NotEarlier older newer := by
  refine (run_database (fun db past => Dated db past ∧
      past.IsChain fun newer older => NotEarlier older newer) SeesSnapshot ?_ ?_
    (admitted_unrestricted run) along (initial_respected setup _) ⟨?_, ?_⟩).2
  · intro statement world inv issuable seen held
    exact ⟨held.1.after_statement inv issuable, isChain_extend inv.history.newest held.2
      (notEarlier_after_statement held.1 inv issuable seen)⟩
  · intro world inv held
    refine ⟨fun state kept => ?_, isChain_extend inv.history.newest held.2
      fun old member => ⟨old, member, rfl, le_refl _⟩⟩
    rcases List.mem_cons.mp kept with rfl | earlier
    · intro old member row stored sameId _ _
      rw [inv.history.current.keyed.serverIds.eq_of_key stored member sameId]
    · exact held.1 state earlier
  · simp [Dated, Machine.idle, initial, Database.empty]
  · exact List.isChain_singleton _

theorem modification_time_of_start :
    ((reached Sample.setup Sample.createAndRun).state.db.servers.map fun row => row.generation) = [2] ∧
      (reached Sample.setup Sample.createAndRun).state.past.IsChain fun newer older => NotEarlier older newer :=
  ⟨by decide +kernel, modification_time_never_falls Sample.setup Sample.createAndRun (by decide +kernel)⟩

namespace Sample

def later : Choice := { choice 2 with now := .ok 5 }

def publishing : Run :=
  createAndRun ++ reconcile [40] ++ register ++ reconcile [8, 11, 3, 11, 3, 11, 2] ++
    call (.setDesiredState "world" .stopped none) ++ reconcile [13, 3, 12, 3] ++ advances .worker 2 1

def lateWrite : Run :=
  publishing ++ .start (.client 0) (.request (.setDesiredState "world" .running none)) ::
    advances (.client 0) 1 3 ++ [.advance .worker later, .advance .worker later] ++
    advances (.client 0) 1 1

end Sample

theorem modification_time_falls : ((reached Sample.setup Sample.lateWrite).state.past.take 2).map
      (fun db => db.servers.map fun row => (row.id, row.updatedAt)) =
        [[(Sample.serverId, 1)], [(Sample.serverId, 5)]] := by
  decide +kernel

def RunsDefinition (db : Database) : Prop :=
  ∀ row ∈ db.serverInstances, row.terminatedAt = none → row.stopRequestedAt = none →
    ∀ server ∈ db.servers, server.id = row.serverId → row.resolvedSpec = server.spec

def StopsFirst : DbOp → World → Prop
  | .updateSpec server _, world => ∀ row ∈ world.db.serverInstances, row.serverId = server.id →
      row.terminatedAt = none → row.stopRequestedAt.isSome
  | _, _ => True

instance (statement : DbOp) (world : World) : Decidable (StopsFirst statement world) := by
  unfold StopsFirst
  split <;> infer_instance

theorem RunsDefinition.after_statement {setup : Setup} {policy : Policy setup} {world : World}
    {statement : DbOp} (runs : RunsDefinition world.db) (inv : Inv setup policy world)
    (issuable : Issuable setup policy world statement) (first : StopsFirst statement world) :
    RunsDefinition (statement.query world.db).2 := by
  have consistent := inv.history.current
  intro row member active unstopped server stored owner
  rcases (query_servers statement consistent.keyed).origin server stored with
    ⟨old, present, change⟩ | created
  · have sameId := change.id
    rcases change.spec with kept | ⟨target, previous, issued, named, -⟩
    · rcases (query_effect issuable.1).instance_origin member with ⟨before, listed, step⟩ | fresh
      · rw [kept, step.spec]
        refine runs before listed (step.active active) ?_ old present ?_
        · by_contra requested
          have still := step.stop (Option.isSome_iff_ne_none.mpr requested)
          simp [unstopped] at still
        · rw [← sameId, owner, step.server]
      · obtain ⟨other, listed, named, spec⟩ := fresh.server
        rw [kept, spec, consistent.keyed.serverIds.eq_of_key listed present
          (named.trans (owner.symm.trans sameId))]
    · subst issued
      rw [(client_tables rfl world.db).1] at member
      have requested := first row member (owner.symm.trans (sameId.trans named.symm)) active
      simp [unstopped] at requested
  · -- The server did not exist before, so it has no instance yet.
    rcases (query_effect issuable.1).instance_origin member with ⟨before, listed, step⟩ | fresh
    · obtain ⟨other, listed', named, -⟩ := consistent.lineage.numbered before listed
      have apart := created.free other listed'
      simp [ServerRow.conflicts, owner, step.server, named] at apart
    · obtain ⟨other, listed', named, -⟩ := fresh.server
      have apart := created.free other listed'
      simp [ServerRow.conflicts, owner, named] at apart

theorem running_instance_runs_definition (setup : Setup) (run : Run)
    (along : (machine setup).Along (Event.Granted (onStatements StopsFirst)) run (Machine.idle initial)) :
    RunsDefinition (reached setup run).state.db :=
  run_database (fun db _ => RunsDefinition db) StopsFirst
    (fun _ _ inv issuable first held => held.after_statement inv issuable first)
    (fun _ _ held => held) (admitted_unrestricted run) along (initial_respected setup _)
    (by simp [RunsDefinition, Machine.idle, initial, Database.empty])

namespace Sample

def startInstance : Run := createAndRun ++ .start .worker (.reconcile serverId) :: advances .worker 2 5

def redefineAndRestart : Run :=
  startInstance ++ call (.setDesiredState "world" .stopped none) ++
    call (.apply "world" (spec "1.22") none) ++ call (.setDesiredState "world" .running none)

end Sample

theorem started_instance_runs_definition :
    ((reached Sample.setup Sample.startInstance).state.db.serverInstances.map fun row =>
        (row.serverId, row.terminatedAt, row.stopRequestedAt)) = [(Sample.serverId, none, none)] ∧
      RunsDefinition (reached Sample.setup Sample.startInstance).state.db :=
  ⟨by decide +kernel, running_instance_runs_definition Sample.setup Sample.startInstance (by decide +kernel)⟩

theorem instance_runs_old_definition :
    ((reached Sample.setup Sample.redefineAndRestart).state.db.servers.map fun row =>
        (row.id, row.desiredState, row.spec.process.version)) = [(Sample.serverId, .running, "1.22")] ∧
      ((reached Sample.setup Sample.redefineAndRestart).state.db.serverInstances.map fun row =>
        (row.serverId, row.terminatedAt, row.stopRequestedAt, row.resolvedSpec.process.version)) =
          [(Sample.serverId, none, none, "1.21")] := by
  decide +kernel

end McServer.System
