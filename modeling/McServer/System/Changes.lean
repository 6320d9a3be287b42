import McServer.System.Effects
import McServer.Store.Writing

set_option autoImplicit false

namespace McServer.ControlPlane

open Domain Store

def DbOp.writesServers : DbOp → Bool
  | .createServer _ | .updateDesiredState _ _ | .updateSpec _ _ | .archiveServer _ _
  | .insertInstance _ _ _ | .commitSnapshot _ _ _ _ => true
  | _ => false

def DbOp.writesInstances : DbOp → Bool
  | .insertInstance _ _ _ | .requestStop _ _ | .markDataPrepared _ _ | .observeProcess _ _ _
  | .recordError _ _ _ | .completeInstance _ _ _ | .commitSnapshot _ _ _ _ => true
  | _ => false

def DbOp.writesComputes : DbOp → Bool
  | .insertCompute _ _ _ _ _ _ | .recordProcessId _ _ _ | .recordProviderInstance _ _ _ _
  | .recordAgentCertificate _ _ _ | .authenticateAgent _ _ _ _ _ | .requestShutdown _ _
  | .terminateCompute _ _ _ _ => true
  | _ => false

structure Untouched (op : DbOp) (db after : Database) : Prop where
  servers : op.writesServers = false → after.servers = db.servers
  instances : op.writesInstances = false → after.serverInstances = db.serverInstances
  computes : op.writesComputes = false → after.computeInstances = db.computeInstances

theorem Untouched.refl {op : DbOp} (db : Database) : Untouched op db db :=
  ⟨fun _ => rfl, fun _ => rfl, fun _ => rfl⟩

theorem query_untouched (op : DbOp) (db : Database) : Untouched op db (op.query db).2 := by
  cases op with
  | createServer server =>
    refine binding_keeps (.refl db) ?_
    dsimp only
    split <;> exact ⟨by rintro ⟨⟩, fun _ => rfl, fun _ => rfl⟩
  | updateDesiredState | updateSpec =>
    refine binding_keeps (.refl db) (binding_keeps (.refl db) ?_)
    exact touchedOne_keeps (.refl db) fun _ => ⟨by rintro ⟨⟩, fun _ => rfl, fun _ => rfl⟩
  | archiveServer server previous =>
    simp only [DbOp.query, ServerRepository.archive]
    split
    · exact .refl db
    · refine binding_keeps (.refl db) (binding_keeps (.refl db) ?_)
      exact touchedOne_keeps (.refl db) fun _ => ⟨by rintro ⟨⟩, fun _ => rfl, fun _ => rfl⟩
  | insertInstance server id now =>
    rcases insertForRunningServer_cases server id now db with ⟨result, failed, -⟩ |
      ⟨row, found, -, -, -, -, -, -, -, -, -, -, -, -, -, -, stored⟩
    · simp only [DbOp.query, failed]
      exact .refl db
    · simp only [DbOp.query, stored]
      exact ⟨by rintro ⟨⟩, by rintro ⟨⟩, fun _ => rfl⟩
  | commitSnapshot id token snapshotId now =>
    rcases commit_cases id token snapshotId now db with ⟨result, failed, -⟩ |
      ⟨found, committedAt, instances, -, -, done⟩
    · simp only [DbOp.query, failed]
      exact .refl db
    · simp only [DbOp.query, done]
      exact ⟨by rintro ⟨⟩, by rintro ⟨⟩, fun _ => rfl⟩
  | insertCompute id owner provider connection enrollment now =>
    rcases insertForInstance_cases id owner provider connection enrollment now db with
      ⟨result, failed, -⟩ | ⟨row, -, -, -, -, -, -, -, -, -, -, -, done⟩
    · simp only [DbOp.query, failed]
      exact .refl db
    · simp only [DbOp.query, done]
      exact ⟨fun _ => rfl, fun _ => rfl, by rintro ⟨⟩⟩
  | authenticateAgent id provider token der now =>
    simp only [DbOp.query, ComputeInstanceRepository.authenticateAgent]
    split
    · exact touchedOne_keeps (.refl db) fun _ => ⟨fun _ => rfl, fun _ => rfl, by rintro ⟨⟩⟩
    · split
      · exact .refl db
      · exact touchedOne_keeps (.refl db) fun _ => ⟨fun _ => rfl, fun _ => rfl, by rintro ⟨⟩⟩
  | requestStop | markDataPrepared | observeProcess | recordError | completeInstance =>
    exact touchedOne_keeps (.refl db) fun _ => ⟨fun _ => rfl, by rintro ⟨⟩, fun _ => rfl⟩
  | recordProcessId | recordProviderInstance | recordAgentCertificate | requestShutdown
  | terminateCompute =>
    exact touchedOne_keeps (.refl db) fun _ => ⟨fun _ => rfl, fun _ => rfl, by rintro ⟨⟩⟩
  | _ => exact .refl db

inductive ServerChange (op : DbOp) (db : Database) (old : ServerRow) : ServerRow → Prop
  | kept : ServerChange op db old old
  | redirected {server : Server} {previous : Nat} (issued : op = .updateDesiredState server previous)
      (named : server.id = old.id) (read : old.generation = previous)
      (unarchived : old.archivedAt = none) :
      ServerChange op db old { old with
        desiredState := server.desiredState, generation := server.generation
        updatedAt := server.updatedAt }
  | respecified {server : Server} {previous : Nat} (issued : op = .updateSpec server previous)
      (named : server.id = old.id) (read : old.generation = previous)
      (stopped : old.desiredState = .stopped) (unarchived : old.archivedAt = none) :
      ServerChange op db old { old with
        spec := server.spec, generation := server.generation, updatedAt := server.updatedAt }
  | archived {server : Server} {previous : Nat} {time : UnixTimestampMillis}
      (issued : op = .archiveServer server previous) (named : server.id = old.id)
      (read : old.generation = previous) (stopped : old.desiredState = .stopped)
      (unarchived : old.archivedAt = none) (idle : db.hasActiveInstance old.id = false)
      (time_eq : server.archivedAt = some time) :
      ServerChange op db old { old with
        archivedAt := some time, generation := server.generation, updatedAt := server.updatedAt }
  | numbered {id : ServerInstanceId} {now : UnixTimestampMillis}
      (issued : op = .insertInstance old.id id now) (wanted : old.desiredState = .running) :
      ServerChange op db old { old with nextFencingToken := old.nextFencingToken + 1 }
  | published {found : ServerInstance} {token : Nat} {snapshotId : String}
      {committedAt now : UnixTimestampMillis} {instances : List ServerInstance}
      (issued : op = .commitSnapshot found.id token snapshotId now) (owner : found.serverId = old.id)
      (publishing : Publishing db found token snapshotId committedAt instances) :
      ServerChange op db old (SnapshotRepository.markCurrent snapshotId committedAt old)

theorem ServerChange.id {op : DbOp} {db : Database} {old new : ServerRow}
    (change : ServerChange op db old new) : new.id = old.id := by
  cases change <;> rfl

theorem ServerChange.name {op : DbOp} {db : Database} {old new : ServerRow}
    (change : ServerChange op db old new) : new.name = old.name := by
  cases change <;> rfl

theorem ServerChange.created {op : DbOp} {db : Database} {old new : ServerRow}
    (change : ServerChange op db old new) : new.createdAt = old.createdAt := by
  cases change <;> rfl

theorem ServerChange.spec {op : DbOp} {db : Database} {old new : ServerRow}
    (change : ServerChange op db old new) : new.spec = old.spec ∨
      ∃ server previous, op = .updateSpec server previous ∧ server.id = old.id ∧
        new.spec = server.spec := by
  cases change with
  | respecified issued named => exact .inr ⟨_, _, issued, named, rfl⟩
  | _ => exact .inl rfl

structure ServerCreated (op : DbOp) (db : Database) (new : ServerRow) : Prop where
  issued : op = .createServer new.toServer
  token : new.nextFencingToken = 1
  free : ∀ other ∈ db.servers, new.conflicts other = false

abbrev ServersChanged (op : DbOp) (db : Database) : Database → Prop := fun after =>
  Table.Grown (ServerChange op db) (ServerCreated op db) db.servers after.servers

section Servers

variable {op : DbOp} {db : Database}

theorem ServersChanged.of_same {after : Database} (same : after.servers = db.servers) :
    ServersChanged op db after := by
  unfold ServersChanged
  rw [same]
  exact Table.Grown.refl fun _ => .kept

theorem ServersChanged.update {selects : ServerRow → Bool} {set : ServerRow → ServerRow}
    (changed : ∀ row ∈ db.servers, selects row = true → ServerChange op db row (set row)) :
    ServersChanged op db { db with servers := Table.update selects set db.servers } :=
  (Table.update_moved (fun _ => .kept) changed).grown

theorem serverUpdate_changes {selects : ServerRow → Bool} {set : ServerRow → ServerRow}
    (changed : ∀ row, selects row = true → ServerChange op db row (set row)) :
    ServersChanged op db (touchedOne (updateServers selects set) db).2 :=
  touchedOne_keeps (.of_same rfl) fun _ => .update fun row _ chosen => changed row chosen

theorem updateDesiredState_servers (server : Server) (previous : Nat) (db : Database) :
    ServersChanged (.updateDesiredState server previous) db
      ((DbOp.updateDesiredState server previous).query db).2 := by
  refine binding_keeps (.of_same rfl) (binding_keeps (.of_same rfl) (serverUpdate_changes ?_))
  intro row chosen
  simp only [Bool.and_eq_true, decide_eq_true_eq, Option.isNone_iff_eq_none] at chosen
  exact .redirected rfl chosen.1.1.symm chosen.1.2 chosen.2

theorem updateSpec_servers (server : Server) (previous : Nat) (db : Database) :
    ServersChanged (.updateSpec server previous) db ((DbOp.updateSpec server previous).query db).2 := by
  refine binding_keeps (.of_same rfl) (binding_keeps (.of_same rfl) (serverUpdate_changes ?_))
  intro row chosen
  simp only [Bool.and_eq_true, decide_eq_true_eq, Option.isNone_iff_eq_none] at chosen
  exact .respecified rfl chosen.1.1.1.symm chosen.1.1.2 chosen.1.2 chosen.2

theorem archiveServer_servers (server : Server) (previous : Nat) (db : Database) :
    ServersChanged (.archiveServer server previous) db
      ((DbOp.archiveServer server previous).query db).2 := by
  simp only [DbOp.query, ServerRepository.archive]
  split
  · exact .of_same rfl
  · rename_i time time_eq
    refine binding_keeps (.of_same rfl) (binding_keeps (.of_same rfl) (serverUpdate_changes ?_))
    intro row chosen
    simp only [Bool.and_eq_true, decide_eq_true_eq, Option.isNone_iff_eq_none,
      Bool.not_eq_true'] at chosen
    obtain ⟨⟨⟨⟨named, read⟩, stopped⟩, unarchived⟩, idle⟩ := chosen
    exact .archived rfl named.symm read stopped unarchived idle time_eq

theorem createServer_servers (server : Server) (db : Database) :
    ServersChanged (.createServer server) db ((DbOp.createServer server).query db).2 := by
  refine binding_keeps (.of_same rfl) ?_
  dsimp only
  split
  · rename_i stored inserted
    obtain ⟨rfl, -, free⟩ := insertRow_stored inserted
    exact Table.Grown.insert (fun _ => .kept) ⟨rfl, rfl, free⟩
  · exact .of_same rfl
  · exact .of_same rfl

theorem insertInstance_servers (server : ServerId) (id : ServerInstanceId) (now : UnixTimestampMillis)
    {db : Database} (keyed : Keyed db) :
    ServersChanged (.insertInstance server id now) db
      ((DbOp.insertInstance server id now).query db).2 := by
  simp only [DbOp.query]
  rcases insertForRunningServer_cases server id now db with ⟨result, failed, -⟩ |
    ⟨row, found, member, rfl, wanted, idle, -, -, -, -, -, -, -, -, -, -, stored⟩
  · rw [failed]
    exact .of_same rfl
  · rw [stored]
    refine (Table.update_moved (fun _ => .kept) fun other present chosen => ?_).grown
    have same : other.id = row.id := by simpa using chosen
    refine .numbered (by rw [same]) ?_
    rw [keyed.serverIds.eq_of_key present member same]
    exact wanted

open SnapshotRepository in
theorem commitSnapshot_servers (id : ServerInstanceId) (token : Nat) (snapshotId : String)
    (now : UnixTimestampMillis) (db : Database) :
    ServersChanged (.commitSnapshot id token snapshotId now) db
      ((DbOp.commitSnapshot id token snapshotId now).query db).2 := by
  simp only [DbOp.query]
  rcases commit_cases id token snapshotId now db with ⟨result, failed, -⟩ |
    ⟨found, committedAt, instances, rfl, publishing, done⟩
  · rw [failed]
    exact .of_same rfl
  · rw [done]
    refine (Table.update_moved (fun _ => .kept) fun row _ chosen => ?_).grown
    simp only [mayPublish, Bool.and_eq_true, decide_eq_true_eq] at chosen
    exact .published rfl chosen.1.symm publishing

theorem query_servers (op : DbOp) {db : Database} (keyed : Keyed db) :
    ServersChanged op db (op.query db).2 := by
  cases op with
  | createServer server => exact createServer_servers server db
  | updateDesiredState server previous => exact updateDesiredState_servers server previous db
  | updateSpec server previous => exact updateSpec_servers server previous db
  | archiveServer server previous => exact archiveServer_servers server previous db
  | insertInstance server id now => exact insertInstance_servers server id now keyed
  | commitSnapshot id token snapshotId now => exact commitSnapshot_servers id token snapshotId now db
  | _ => exact .of_same ((query_untouched _ db).servers rfl)

end Servers

structure InstanceAged (old new : ServerInstance) : Prop where
  id : new.id = old.id
  server : new.serverId = old.serverId
  token : new.fencingToken = old.fencingToken
  spec : new.resolvedSpec = old.resolvedSpec
  created : new.createdAt = old.createdAt
  frozen : old.terminatedAt.isSome → new = old

def InstanceInserted (db : Database) (new : ServerInstance) : Prop :=
  ∃ server ∈ db.servers, ∃ id now, db.hasActiveInstance server.id = false ∧ new = instanceRow db server id now

abbrev InstancesAged (db after : Database) : Prop :=
  Table.Grown InstanceAged (InstanceInserted db) db.serverInstances after.serverInstances

section Instances

variable {db : Database}

theorem InstanceAged.refl (row : ServerInstance) : InstanceAged row row :=
  ⟨rfl, rfl, rfl, rfl, rfl, fun _ => rfl⟩

theorem InstanceAged.running {old new : ServerInstance} (running : old.terminatedAt = none)
    (id : new.id = old.id) (server : new.serverId = old.serverId)
    (token : new.fencingToken = old.fencingToken) (spec : new.resolvedSpec = old.resolvedSpec)
    (created : new.createdAt = old.createdAt) : InstanceAged old new :=
  ⟨id, server, token, spec, created, fun ended => by simp [running] at ended⟩

theorem InstancesAged.of_same {after : Database} (same : after.serverInstances = db.serverInstances) :
    InstancesAged db after := by
  unfold InstancesAged
  rw [same]
  exact Table.Grown.refl InstanceAged.refl

theorem instanceUpdate_ages {selects : ServerInstance → Bool} {set : ServerInstance → ServerInstance}
    (aged : ∀ row, selects row = true → InstanceAged row (set row)) :
    InstancesAged db (touchedOne (updateInstances selects set) db).2 :=
  touchedOne_keeps (.of_same rfl) fun _ =>
    (Table.update_moved InstanceAged.refl fun row _ chosen => aged row chosen).grown

theorem insertInstance_ages (server : ServerId) (id : ServerInstanceId) (now : UnixTimestampMillis) :
    InstancesAged db ((DbOp.insertInstance server id now).query db).2 := by
  simp only [DbOp.query]
  rcases insertForRunningServer_outcome server id now db with
    refused | ⟨owner, member, -, -, idle, ⟨failed, -⟩ | inserted⟩
  · rw [refused]
    exact .of_same rfl
  · rw [failed]
    exact .of_same rfl
  · rw [inserted]
    exact Table.Grown.insert InstanceAged.refl ⟨owner, member, id, now, idle, rfl⟩

open SnapshotRepository in
theorem commitSnapshot_ages (id : ServerInstanceId) (token : Nat) (snapshotId : String)
    (now : UnixTimestampMillis) :
    InstancesAged db ((DbOp.commitSnapshot id token snapshotId now).query db).2 := by
  simp only [DbOp.query]
  rcases commit_cases id token snapshotId now db with ⟨result, failed, -⟩ |
    ⟨found, committedAt, instances, -, publishing, done⟩
  · rw [failed]
    exact .of_same rfl
  · rw [done]
    simp only [publishedDatabase, publishing.updated]
    refine (Table.update_moved InstanceAged.refl fun row _ chosen => ?_).grown
    simp only [isPublisher, Bool.and_eq_true, Option.isNone_iff_eq_none] at chosen
    exact .running chosen.1.2 rfl rfl rfl rfl rfl

theorem query_instances (op : DbOp) (db : Database) : InstancesAged db (op.query db).2 := by
  cases op with
  | insertInstance server id now => exact insertInstance_ages server id now
  | commitSnapshot id token snapshotId now => exact commitSnapshot_ages id token snapshotId now
  | requestStop id now =>
    refine instanceUpdate_ages fun row chosen => ?_
    simp only [Bool.and_eq_true, Option.isNone_iff_eq_none] at chosen
    exact .running chosen.1.2 rfl rfl rfl rfl rfl
  | markDataPrepared | observeProcess | recordError | completeInstance =>
    refine instanceUpdate_ages fun row chosen => ?_
    simp only [Bool.and_eq_true, Option.isNone_iff_eq_none] at chosen
    exact .running chosen.2 rfl rfl rfl rfl rfl
  | _ => exact .of_same ((query_untouched _ db).instances rfl)

end Instances

end McServer.ControlPlane
