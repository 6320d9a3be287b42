import McServer.ControlPlane.Operations
import McServer.Store.Lineage

set_option autoImplicit false

namespace McServer.ControlPlane

open Domain Store

-- What the statement's issuer has to know about the database. The statements check the rest
-- themselves.
def DbOp.Allowed (op : DbOp) (db : Database) : Prop :=
  match op with
  | .createServer server => server.currentSnapshotId = none
  | .updateDesiredState server previous => server.generation = previous + 1
  | .updateSpec server previous => server.generation = previous + 1
  | .archiveServer server previous => server.generation = previous + 1
  | .completeInstance id _ _ =>
      (∀ row ∈ db.serverInstances, row.id = id → row.dataPreparedAt.isSome → row.resultSnapshotId.isSome) ∧
      ∀ compute ∈ db.computeInstances, compute.serverInstanceId = id → compute.terminatedAt.isSome
  | .insertCompute _ owner provider _ enrollmentToken _ =>
      (∀ compute ∈ db.computeInstances, compute.serverInstanceId = owner →
        compute.terminatedAt = none) ∧ (provider = .akamai → enrollmentToken.isSome)
  | .terminateCompute id _ _ _ =>
      ∀ compute ∈ db.computeInstances, compute.id = id → ∀ row ∈ db.serverInstances,
        row.id = compute.serverInstanceId → row.stopRequestedAt.isSome
  | _ => True

structure ServerWrite (op : DbOp) (old new : ServerRow) : Prop extends ServerKept old new where
  generation : new.generation = old.generation + 1
  spec : new.spec = old.spec ∨
    ∃ server previous, op = .updateSpec server previous ∧ server.id = old.id ∧ new.spec = server.spec

structure InstanceWrite (op : DbOp) (db : Database) (old new : ServerInstance) : Prop extends
    InstanceKept db.computeInstances old new where
  running : old.terminatedAt = none
  spec : new.resolvedSpec = old.resolvedSpec
  keepsData : old.dataPreparedAt.isSome → new.dataPreparedAt.isSome
  preparing : new.dataPreparedAt.isSome → old.dataPreparedAt.isSome ∨ ∃ now, op = .markDataPrepared old.id now
  completing : new.terminatedAt.isSome → ∃ result now, op = .completeInstance old.id result now

structure ComputeWrite (op : DbOp) (db : Database) (old new : ComputeRow) : Prop extends
    ComputeKept db.serverInstances old new where
  running : old.terminatedAt = none
  provider : new.provider = old.provider
  connectionToken : new.connectionToken = old.connectionToken
  enrollmentToken : new.enrollmentToken = old.enrollmentToken ∨
    new.enrollmentToken = none ∧ old.agentCertificateDer.isSome
  certificate : old.agentCsrPem.isSome → new.agentCsrPem = old.agentCsrPem ∧
    new.agentCertificateChainPem = old.agentCertificateChainPem ∧
    new.agentCertificateDer = old.agentCertificateDer ∧
    new.agentCertificateExpiresAt = old.agentCertificateExpiresAt
  check : new.check = true
  recording : new.providerInstanceId = old.providerInstanceId ∨
    ∃ id ipv4 now, op = .recordProviderInstance old.id id ipv4 now ∧ new.providerInstanceId = some id
  terminating : new.terminatedAt.isSome → ∃ result message now, op = .terminateCompute old.id result message now

inductive Effect (op : DbOp) (db : Database) : Database → Prop
  | unchanged : Effect op db db
  | serverCreated {server : Server} {row : ServerRow} (issued : op = .createServer server)
      (stored : row.toServer = server) (free : ∀ other ∈ db.servers, row.conflicts other = false) :
      Effect op db { db with servers := db.servers ++ [row] }
  | serversUpdated {selects : ServerRow → Bool} {set : ServerRow → ServerRow}
      (writes : ∀ row ∈ db.servers, selects row = true → ServerWrite op row (set row)) :
      Effect op db { db with servers := Table.update selects set db.servers }
  | instanceInserted {server : ServerRow} {row : ServerInstance} (member : server ∈ db.servers)
      (wanted : server.desiredState = .running) (idle : db.hasActiveInstance server.id = false)
      (owner : row.serverId = server.id) (spec : row.resolvedSpec = server.spec)
      (token : row.fencingToken = server.nextFencingToken)
      (source : row.sourceSnapshotId = server.currentSnapshotId)
      (unprepared : row.dataPreparedAt = none) (unpublished : row.resultSnapshotId = none)
      (unstopped : row.stopRequestedAt = none) (active : row.terminatedAt = none)
      (free : ∀ other ∈ db.serverInstances, instanceConflicts row other = false) :
      Effect op db { db with
        serverInstances := db.serverInstances ++ [row]
        servers := Table.update (fun row => row.id = server.id)
          (fun row => { row with nextFencingToken := row.nextFencingToken + 1 }) db.servers }
  | instancesUpdated {selects : ServerInstance → Bool} {set : ServerInstance → ServerInstance}
      (writes : ∀ row ∈ db.serverInstances, selects row = true → InstanceWrite op db row (set row)) :
      Effect op db { db with serverInstances := Table.update selects set db.serverInstances }
  | published {found : ServerInstance} {token : Nat} {snapshotId : String}
      {committedAt now : UnixTimestampMillis} {instances : List ServerInstance}
      (issued : op = .commitSnapshot found.id token snapshotId now)
      (done : (SnapshotRepository.commit found.id token snapshotId now db).1 = .ok true)
      (publishing : Publishing db found token snapshotId committedAt instances) :
      Effect op db (publishedDatabase db found token snapshotId committedAt instances)
  | computeInserted {row : ComputeRow} (active : row.terminatedAt = none) (check : row.check = true)
      (free : ∀ other ∈ db.computeInstances, row.conflicts other = false)
      (enrolled : Enrolled row)
      (first : ∀ other ∈ db.computeInstances, other.serverInstanceId ≠ row.serverInstanceId)
      (owner : ∃ found ∈ db.serverInstances, found.id = row.serverInstanceId ∧ found.terminatedAt = none)
      (issued : ∃ connection enrollment now,
        op = .insertCompute row.id row.serverInstanceId row.provider connection enrollment now) :
      Effect op db { db with computeInstances := db.computeInstances ++ [row] }
  | computesUpdated {selects : ComputeRow → Bool} {set : ComputeRow → ComputeRow}
      (writes : ∀ row ∈ db.computeInstances, selects row = true → ComputeWrite op db row (set row)) :
      Effect op db { db with computeInstances := Table.update selects set db.computeInstances }

section Statements

-- Its equations serve every proof of this section.
attribute [local simp] DbOp.query

variable {op : DbOp} {db : Database}

theorem instanceWrite_running {old new : ServerInstance} (running : old.terminatedAt = none)
    (id : new.id = old.id) (publication : SamePublication old new)
    (source : new.sourceSnapshotId = old.sourceSnapshotId) (spec : new.resolvedSpec = old.resolvedSpec)
    (terminated : new.terminatedAt = old.terminatedAt)
    (stop : old.stopRequestedAt.isSome → new.stopRequestedAt.isSome)
    (keepsData : old.dataPreparedAt.isSome → new.dataPreparedAt.isSome)
    (preparing : new.dataPreparedAt.isSome → old.dataPreparedAt.isSome ∨
      ∃ now, op = .markDataPrepared old.id now) : InstanceWrite op db old new := by
  have active : new.terminatedAt.isSome = false := by rw [terminated, running]; rfl
  exact { id, publication, source, stop, running, spec, keepsData, preparing
          active := fun _ => running
          settled := fun gone => by simp [active] at gone
          released := fun gone => by simp [active] at gone
          completing := fun gone => by simp [active] at gone }

theorem requestStop_effect (id : ServerInstanceId) (now : UnixTimestampMillis) (db : Database) :
    Effect (.requestStop id now) db ((DbOp.requestStop id now).query db).2 := by
  refine touchedOne_keeps .unchanged fun _ => .instancesUpdated fun row _ chosen => ?_
  simp only [Bool.and_eq_true, decide_eq_true_eq, Option.isNone_iff_eq_none] at chosen
  exact instanceWrite_running chosen.1.2 rfl ⟨rfl, rfl, rfl⟩ rfl rfl rfl (fun _ => rfl)
    (fun prepared => prepared) .inl

theorem markDataPrepared_effect (id : ServerInstanceId) (now : UnixTimestampMillis) (db : Database) :
    Effect (.markDataPrepared id now) db ((DbOp.markDataPrepared id now).query db).2 := by
  refine touchedOne_keeps .unchanged fun _ => .instancesUpdated fun row _ chosen => ?_
  simp only [Bool.and_eq_true, decide_eq_true_eq, Option.isNone_iff_eq_none] at chosen
  exact instanceWrite_running chosen.2 rfl ⟨rfl, rfl, rfl⟩ rfl rfl rfl (fun requested => requested)
    (fun _ => rfl) fun _ => .inr ⟨now, by rw [chosen.1]⟩

theorem observeProcess_effect (id : ServerInstanceId) (running : Bool) (now : UnixTimestampMillis)
    (db : Database) :
    Effect (.observeProcess id running now) db ((DbOp.observeProcess id running now).query db).2 := by
  refine touchedOne_keeps .unchanged fun _ => .instancesUpdated fun row _ chosen => ?_
  simp only [Bool.and_eq_true, decide_eq_true_eq, Option.isNone_iff_eq_none] at chosen
  exact instanceWrite_running chosen.2 rfl ⟨rfl, rfl, rfl⟩ rfl rfl rfl (fun requested => requested)
    (fun prepared => prepared) .inl

theorem recordError_effect (id : ServerInstanceId) (message : String) (now : UnixTimestampMillis)
    (db : Database) :
    Effect (.recordError id message now) db ((DbOp.recordError id message now).query db).2 := by
  refine touchedOne_keeps .unchanged fun _ => .instancesUpdated fun row _ chosen => ?_
  simp only [Bool.and_eq_true, decide_eq_true_eq, Option.isNone_iff_eq_none] at chosen
  exact instanceWrite_running chosen.2 rfl ⟨rfl, rfl, rfl⟩ rfl rfl rfl (fun requested => requested)
    (fun prepared => prepared) .inl

theorem completeInstance_effect {id : ServerInstanceId} {result : TerminalResult}
    {now : UnixTimestampMillis} {db : Database}
    (allowed : (DbOp.completeInstance id result now).Allowed db) :
    Effect (.completeInstance id result now) db ((DbOp.completeInstance id result now).query db).2 := by
  refine touchedOne_keeps .unchanged fun _ => .instancesUpdated fun row member chosen => ?_
  simp only [Bool.and_eq_true, decide_eq_true_eq, Option.isNone_iff_eq_none] at chosen
  obtain ⟨named, running⟩ := chosen
  obtain ⟨published, released⟩ := allowed
  exact { id := rfl, publication := ⟨rfl, rfl, rfl⟩, source := rfl, spec := rfl, running
          active := fun _ => running
          stop := fun requested => requested
          keepsData := fun prepared => prepared
          preparing := fun prepared => .inl prepared
          settled := fun _ prepared => .inr (published row member named prepared)
          released := fun _ => .inr fun compute present owned =>
            released compute present (owned.trans named)
          completing := fun _ => ⟨result, now, by rw [named]⟩ }

theorem binding_keeps {A : Type} {holds : Database → Prop} {value : Nat} {query : Nat → Query A}
    (unchanged : holds db) (bound : holds (query value db).2) : holds (binding value query db).2 := by
  unfold binding
  split
  · exact unchanged
  · rename_i number accepted
    rwa [positiveU64ToI64_ok accepted]

-- The three updates of a server differ in one column; each raises the generation it has checked.
theorem serverUpdate_effect {server : Server} {previous : Nat} {selects : ServerRow → Bool}
    {set : ServerRow → ServerRow} (raised : server.generation = previous + 1)
    (checked : ∀ row, selects row = true → row.generation = previous)
    (kept : ∀ row, ServerKept row (set row)) (written : ∀ row, (set row).generation = server.generation)
    (spec : ∀ row, selects row = true → (set row).spec = row.spec ∨
      ∃ server previous, op = .updateSpec server previous ∧ server.id = row.id ∧ (set row).spec = server.spec) :
    Effect op db (touchedOne (updateServers selects set) db).2 := by
  refine touchedOne_keeps .unchanged fun _ => .serversUpdated fun row _ chosen =>
    ⟨kept row, ?_, spec row chosen⟩
  rw [written, raised, checked row chosen]

theorem updateDesiredState_effect {server : Server} {previous : Nat} {db : Database}
    (allowed : (DbOp.updateDesiredState server previous).Allowed db) :
    Effect (.updateDesiredState server previous) db ((DbOp.updateDesiredState server previous).query db).2 := by
  refine binding_keeps .unchanged (binding_keeps .unchanged ?_)
  refine serverUpdate_effect allowed (fun row chosen => ?_) (fun row => ⟨rfl, rfl, rfl, rfl⟩)
    (fun row => rfl) fun row _ => .inl rfl
  simp only [Bool.and_eq_true, decide_eq_true_eq] at chosen
  exact chosen.1.2

theorem updateSpec_effect {server : Server} {previous : Nat} {db : Database}
    (allowed : (DbOp.updateSpec server previous).Allowed db) :
    Effect (.updateSpec server previous) db ((DbOp.updateSpec server previous).query db).2 := by
  refine binding_keeps .unchanged (binding_keeps .unchanged ?_)
  refine serverUpdate_effect allowed (fun row chosen => ?_) (fun row => ⟨rfl, rfl, rfl, rfl⟩)
    (fun row => rfl) fun row chosen => .inr ⟨server, previous, rfl, ?_, rfl⟩
  · simp only [Bool.and_eq_true, decide_eq_true_eq] at chosen
    exact chosen.1.1.2
  · simp only [Bool.and_eq_true, decide_eq_true_eq] at chosen
    exact chosen.1.1.1.symm

theorem archiveServer_effect {server : Server} {previous : Nat} {db : Database}
    (allowed : (DbOp.archiveServer server previous).Allowed db) :
    Effect (.archiveServer server previous) db ((DbOp.archiveServer server previous).query db).2 := by
  simp only [DbOp.query, ServerRepository.archive]
  split
  · exact .unchanged
  · refine binding_keeps .unchanged (binding_keeps .unchanged ?_)
    refine serverUpdate_effect allowed (fun row chosen => ?_) (fun row => ⟨rfl, rfl, rfl, rfl⟩)
      (fun row => rfl) fun row _ => .inl rfl
    simp only [Bool.and_eq_true, decide_eq_true_eq] at chosen
    exact chosen.1.1.1.2

theorem createServer_effect (server : Server) (db : Database) :
    Effect (.createServer server) db ((DbOp.createServer server).query db).2 := by
  refine binding_keeps .unchanged ?_
  dsimp only
  split
  · rename_i stored inserted
    obtain ⟨rfl, -, free⟩ := insertRow_stored inserted
    exact .serverCreated rfl rfl free
  · exact .unchanged
  · exact .unchanged

theorem insertInstance_effect (server : ServerId) (id : ServerInstanceId) (now : UnixTimestampMillis)
    (db : Database) :
    Effect (.insertInstance server id now) db ((DbOp.insertInstance server id now).query db).2 := by
  simp only [DbOp.query]
  rcases insertForRunningServer_cases server id now db with ⟨result, failed, -⟩ |
    ⟨row, found, member, rfl, wanted, idle, -, owner, spec, token, source, unprepared, unpublished,
      unstopped, active, free, stored⟩
  · rw [failed]
    exact .unchanged
  · rw [stored]
    exact .instanceInserted member wanted idle owner spec token source unprepared unpublished
      unstopped active free

theorem commitSnapshot_effect (id : ServerInstanceId) (token : Nat) (snapshotId : String)
    (now : UnixTimestampMillis) (db : Database) :
    Effect (.commitSnapshot id token snapshotId now) db
      ((DbOp.commitSnapshot id token snapshotId now).query db).2 := by
  simp only [DbOp.query]
  rcases commit_cases id token snapshotId now db with ⟨result, failed, -⟩ |
    ⟨found, committedAt, instances, rfl, publishing, done⟩
  · rw [failed]
    exact .unchanged
  · rw [done]
    exact .published rfl (by rw [done]) publishing

theorem insertCompute_effect {id : ComputeInstanceId} {owner : ServerInstanceId}
    {provider : ComputeProvider} {connection : String} {enrollment : Option String}
    {now : UnixTimestampMillis} {db : Database}
    (allowed : (DbOp.insertCompute id owner provider connection enrollment now).Allowed db) :
    Effect (.insertCompute id owner provider connection enrollment now) db
      ((DbOp.insertCompute id owner provider connection enrollment now).query db).2 := by
  simp only [DbOp.query]
  rcases insertForInstance_cases id owner provider connection enrollment now db with
    ⟨result, failed, -⟩ | ⟨row, rfl, rfl, rfl, -, active, -, token, check, free, running, inactive, done⟩
  · rw [failed]
    exact .unchanged
  · rw [done]
    refine .computeInserted active check free (fun akamai unset => ?_)
      (fun other present owned => ?_) running ⟨connection, enrollment, now, rfl⟩
    · have given := allowed.2 akamai
      rw [← token, unset] at given
      cases given
    · have gone := inactive other present owned
      rw [allowed.1 other present owned] at gone
      cases gone

theorem computeWrite_running {old new : ComputeRow} (running : old.terminatedAt = none)
    (id : new.id = old.id) (owner : new.serverInstanceId = old.serverInstanceId)
    (provider : new.provider = old.provider)
    (connectionToken : new.connectionToken = old.connectionToken)
    (terminated : new.terminatedAt = old.terminatedAt) (check : new.check = true)
    (enrollmentToken : new.enrollmentToken = old.enrollmentToken ∨
      new.enrollmentToken = none ∧ old.agentCertificateDer.isSome)
    (certificate : old.agentCsrPem.isSome → new.agentCsrPem = old.agentCsrPem ∧
      new.agentCertificateChainPem = old.agentCertificateChainPem ∧
      new.agentCertificateDer = old.agentCertificateDer ∧
      new.agentCertificateExpiresAt = old.agentCertificateExpiresAt)
    (recording : new.providerInstanceId = old.providerInstanceId ∨
      ∃ id ipv4 now, op = .recordProviderInstance old.id id ipv4 now ∧
        new.providerInstanceId = some id) : ComputeWrite op db old new := by
  have active : new.terminatedAt.isSome = false := by rw [terminated, running]; rfl
  exact { id, owner, running, provider, connectionToken, enrollmentToken, certificate, check, recording
          active := fun _ => running
          stopped := fun gone => by simp [active] at gone
          terminating := fun gone => by simp [active] at gone }

theorem updateComputes_effect {selects : ComputeRow → Bool} {set : ComputeRow → ComputeRow}
    (writes : ∀ row ∈ db.computeInstances, selects row = true → (set row).check = true →
      ComputeWrite op db row (set row)) :
    Effect op db (touchedOne (updateComputes selects set) db).2 :=
  touchedOne_keeps .unchanged fun checked => .computesUpdated fun row member chosen =>
    writes row member chosen (checked row member chosen)

theorem recordProcessId_effect (id : ComputeInstanceId) (processId : Nat) (now : UnixTimestampMillis)
    (db : Database) :
    Effect (.recordProcessId id processId now) db ((DbOp.recordProcessId id processId now).query db).2 := by
  refine updateComputes_effect fun row member chosen check => ?_
  simp only [Bool.and_eq_true, decide_eq_true_eq, Option.isNone_iff_eq_none] at chosen
  exact computeWrite_running chosen.1.2 rfl rfl rfl rfl rfl check (.inl rfl)
    (fun _ => ⟨rfl, rfl, rfl, rfl⟩) (.inl rfl)

theorem recordProviderInstance_effect (id : ComputeInstanceId) (providerId : String)
    (ipv4 : Option String) (now : UnixTimestampMillis) (db : Database) :
    Effect (.recordProviderInstance id providerId ipv4 now) db
      ((DbOp.recordProviderInstance id providerId ipv4 now).query db).2 := by
  refine updateComputes_effect fun row member chosen check => ?_
  simp only [Bool.and_eq_true, decide_eq_true_eq, Option.isNone_iff_eq_none] at chosen
  exact computeWrite_running chosen.1.2 rfl rfl rfl rfl rfl check (.inl rfl)
    (fun _ => ⟨rfl, rfl, rfl, rfl⟩) (.inr ⟨providerId, ipv4, now, by rw [chosen.1.1], rfl⟩)

theorem recordAgentCertificate_effect (id : ComputeInstanceId) (token : String)
    (certificate : AgentCertificateRecord) (db : Database) :
    Effect (.recordAgentCertificate id token certificate) db
      ((DbOp.recordAgentCertificate id token certificate).query db).2 := by
  refine updateComputes_effect fun row member chosen check => ?_
  simp only [Bool.and_eq_true, decide_eq_true_eq, Option.isNone_iff_eq_none] at chosen
  refine computeWrite_running chosen.2 rfl rfl rfl rfl rfl check (.inl rfl) (fun recorded => ?_) (.inl rfl)
  simp [chosen.1.2] at recorded

theorem authenticateAgent_effect (id : ComputeInstanceId) (provider : ComputeProvider) (token : String)
    (der : Option (List UInt8)) (now : UnixTimestampMillis) (db : Database) :
    Effect (.authenticateAgent id provider token der now) db
      ((DbOp.authenticateAgent id provider token der now).query db).2 := by
  simp only [DbOp.query, ComputeInstanceRepository.authenticateAgent]
  cases provider with
  | localProcess =>
    refine updateComputes_effect fun row member chosen check => ?_
    simp only [Bool.and_eq_true, decide_eq_true_eq, Option.isNone_iff_eq_none] at chosen
    exact computeWrite_running chosen.2 rfl rfl rfl rfl rfl check (.inl rfl)
      (fun _ => ⟨rfl, rfl, rfl, rfl⟩) (.inl rfl)
  | akamai =>
    cases der with
    | none => exact .unchanged
    | some der =>
      refine updateComputes_effect fun row member chosen check => ?_
      simp only [Bool.and_eq_true, decide_eq_true_eq, Option.isNone_iff_eq_none] at chosen
      exact computeWrite_running chosen.2 rfl rfl rfl rfl rfl check
        (.inr ⟨rfl, by simp [chosen.1.1.2]⟩) (fun _ => ⟨rfl, rfl, rfl, rfl⟩) (.inl rfl)

theorem requestShutdown_effect (id : ComputeInstanceId) (now : UnixTimestampMillis) (db : Database) :
    Effect (.requestShutdown id now) db ((DbOp.requestShutdown id now).query db).2 := by
  refine updateComputes_effect fun row member chosen check => ?_
  simp only [Bool.and_eq_true, decide_eq_true_eq, Option.isNone_iff_eq_none] at chosen
  exact computeWrite_running chosen.2 rfl rfl rfl rfl rfl check (.inl rfl)
    (fun _ => ⟨rfl, rfl, rfl, rfl⟩) (.inl rfl)

theorem terminateCompute_effect {id : ComputeInstanceId} {result : ComputeTerminalResult}
    {message : Option String} {now : UnixTimestampMillis} {db : Database}
    (allowed : (DbOp.terminateCompute id result message now).Allowed db) :
    Effect (.terminateCompute id result message now) db
      ((DbOp.terminateCompute id result message now).query db).2 := by
  refine updateComputes_effect fun row member chosen check => ?_
  simp only [Bool.and_eq_true, decide_eq_true_eq, Option.isNone_iff_eq_none] at chosen
  obtain ⟨named, running⟩ := chosen
  exact { id := rfl, owner := rfl, running, provider := rfl, connectionToken := rfl, check
          enrollmentToken := .inl rfl
          certificate := fun _ => ⟨rfl, rfl, rfl, rfl⟩
          recording := .inl rfl
          active := fun _ => running
          stopped := fun _ => .inr (allowed row member named)
          terminating := fun _ => ⟨result, message, now, by rw [named]⟩ }

theorem query_effect {op : DbOp} {db : Database} (allowed : op.Allowed db) : Effect op db (op.query db).2 := by
  cases op with
  | createServer server => exact createServer_effect server db
  | updateDesiredState server previous => exact updateDesiredState_effect allowed
  | updateSpec server previous => exact updateSpec_effect allowed
  | archiveServer server previous => exact archiveServer_effect allowed
  | insertInstance server id now => exact insertInstance_effect server id now db
  | requestStop id now => exact requestStop_effect id now db
  | markDataPrepared id now => exact markDataPrepared_effect id now db
  | observeProcess id running now => exact observeProcess_effect id running now db
  | recordError id message now => exact recordError_effect id message now db
  | completeInstance id result now => exact completeInstance_effect allowed
  | commitSnapshot id token snapshot now => exact commitSnapshot_effect id token snapshot now db
  | insertCompute id owner provider connection enrollment now => exact insertCompute_effect allowed
  | recordProcessId id processId now => exact recordProcessId_effect id processId now db
  | recordProviderInstance id provider ipv4 now =>
    exact recordProviderInstance_effect id provider ipv4 now db
  | recordAgentCertificate id token certificate =>
    exact recordAgentCertificate_effect id token certificate db
  | authenticateAgent id provider token der now =>
    exact authenticateAgent_effect id provider token der now db
  | requestShutdown id now => exact requestShutdown_effect id now db
  | terminateCompute id result message now => exact terminateCompute_effect allowed
  | getServer | getServerByName | hasActiveInstance | getInstance | getActiveInstance | getCompute
  | getActiveCompute | listActiveLocalOwnership | listActiveAkamai | getAgentEnrollment =>
    exact .unchanged

end Statements

theorem csr_of_certificate {row : ComputeRow} (check : row.check = true)
    (recorded : row.agentCertificateDer.isSome) : row.agentCsrPem.isSome := by
  have columns : row.certificateColumns = true := by
    simp only [ComputeRow.check, Bool.and_eq_true] at check
    exact check.1.1.1.1.1.2
  rcases unset : row.agentCertificateDer with _ | der
  · simp [unset] at recorded
  · simp [ComputeRow.certificateColumns, unset] at columns
    exact columns.1.1

theorem ComputeWrite.enrolled {op : DbOp} {db : Database} {old new : ComputeRow}
    (write : ComputeWrite op db old new) (check : old.check = true) (enrolled : Enrolled old) :
    Enrolled new := by
  intro remote unset
  have recorded : old.agentCsrPem.isSome := by
    rcases write.enrollmentToken with kept | ⟨-, certified⟩
    · exact enrolled (write.provider.symm.trans remote) (kept.symm.trans unset)
    · exact csr_of_certificate check certified
  rw [(write.certificate recorded).1]
  exact recorded

theorem Effect.consistent {op : DbOp} {db after : Database} (effect : Effect op db after)
    (allowed : op.Allowed db) (consistent : Consistent db) : Consistent after := by
  cases effect with
  | unchanged => exact consistent
  | serverCreated issued stored free =>
    subst issued
    refine consistent.serverCreated free ?_
    rw [stored]
    exact allowed
  | serversUpdated writes =>
    exact consistent.serversUpdated fun row member chosen => (writes row member chosen).toServerKept
  | instanceInserted member wanted idle owner spec token source unprepared unpublished unstopped active
      free =>
    exact consistent.instanceInserted member idle owner token source unpublished active free
  | instancesUpdated writes =>
    exact consistent.instancesUpdated fun row member chosen => (writes row member chosen).toInstanceKept
  | published issued done publishing => exact consistent.published publishing
  | computeInserted active check free enrolled first owner =>
    exact consistent.computeInserted free first owner active check enrolled
  | computesUpdated writes =>
    refine consistent.computesUpdated (fun row member chosen => (writes row member chosen).toComputeKept)
      (fun row member chosen => (writes row member chosen).check) fun row member chosen => ?_
    exact (writes row member chosen).enrolled (consistent.allocation.checked row member)
      (consistent.allocation.enrolled row member)

end McServer.ControlPlane
