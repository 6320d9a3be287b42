import McServer.Store.Schema
import Mathlib.Data.List.Sort

set_option autoImplicit false

namespace McServer.Store

open Domain

def positiveU64ToI64 (value : Nat) : Except RepositoryError Nat :=
  if value = 0 then .error .integerOutOfRange
  else if maximumI64 < value then .error .integerOutOfRange
  else .ok value

-- Statements bind their integers before they run: an integer out of range stops them first.
def binding {A : Type} (value : Nat) (query : Nat → Query A) : Query A :=
  fun database =>
    match positiveU64ToI64 value with
    | .error error => (.error error, database)
    | .ok bound => query bound database

def Database.hasActiveInstance (database : Database) (id : ServerId) : Bool :=
  database.serverInstances.any fun row => row.serverId = id && row.terminatedAt.isNone

def Database.hasActiveCompute (database : Database) (id : ServerInstanceId) : Bool :=
  database.computeInstances.any fun row => row.serverInstanceId = id && row.terminatedAt.isNone

namespace ServerRepository

def decodeServer (row : ServerRow) : Except RepositoryError Server :=
  row.toServer.rehydrate.mapError .validation

def create (server : Server) : Query Unit :=
  binding server.generation fun _ database =>
    let row : ServerRow := { toServer := server, nextFencingToken := 1 }
    match insertRow ServerRow.check ServerRow.conflicts row database.servers with
    | .stored servers => (.ok (), { database with servers })
    | .uniqueViolation => (.error (.conflict "server name already exists"), database)
    | .checkViolation => (.error .database, database)

def get (id : ServerId) : Query (Option Server) :=
  read fun database => (database.servers.find? fun row => row.id = id).mapM decodeServer

def getByName (name : ServerName) : Query (Option Server) :=
  read fun database => (database.servers.find? fun row => row.name = name).mapM decodeServer

def hasActiveInstance (id : ServerId) : Query Bool :=
  read fun database => .ok (database.hasActiveInstance id)

def updateDesiredState (server : Server) (previousGeneration : Nat) : Query Bool :=
  binding server.generation fun generation =>
    binding previousGeneration fun previous =>
      touchedOne <| updateServers
        (fun row => row.id = server.id && row.generation = previous && row.archivedAt.isNone)
        (fun row => { row with
          desiredState := server.desiredState, generation, updatedAt := server.updatedAt })

def updateSpec (server : Server) (previousGeneration : Nat) : Query Bool :=
  binding server.generation fun generation =>
    binding previousGeneration fun previous =>
      touchedOne <| updateServers (fun row => row.id = server.id && row.generation = previous &&
          row.desiredState = .stopped && row.archivedAt.isNone)
        (fun row => { row with spec := server.spec, generation, updatedAt := server.updatedAt })

def archive (server : Server) (previousGeneration : Nat) : Query Bool := fun database =>
  match server.archivedAt with
  | none => (.error .invalidArchiveState, database)
  | some archivedAt =>
      (binding server.generation fun generation =>
        binding previousGeneration fun previous =>
          touchedOne <| updateServers (fun row => row.id = server.id && row.generation = previous &&
              row.desiredState = .stopped && row.archivedAt.isNone &&
              !database.hasActiveInstance row.id)
            (fun row => { row with
              archivedAt := some archivedAt, generation, updatedAt := server.updatedAt })) database

end ServerRepository

namespace ServerInstanceRepository

def decodeInstance (row : ServerInstance) : Except RepositoryError ServerInstance :=
  row.rehydrate.mapError .serverInstanceValidation

def instanceTime (database : Database) (server : ServerRow) (now : UnixTimestampMillis) :
    UnixTimestampMillis :=
  let history := database.serverInstances.filter fun row => row.serverId = server.id
  max (max now server.updatedAt) (history.foldl (fun latest row => max latest row.updatedAt) 0)

-- The transaction of `create_for_running_server`: insert the row and take the next fencing
-- token. Whether a row was inserted is returned; the caller then reads it.
def insertForRunningServer (serverId : ServerId) (instanceId : ServerInstanceId)
    (now : UnixTimestampMillis) : Query Bool := fun database =>
  match database.servers.find? fun row => row.id = serverId with
  | none => (.ok false, database)
  | some server =>
      if server.desiredState = .running && !database.hasActiveInstance server.id then
        let time := instanceTime database server now
        let row : ServerInstance :=
          { id := instanceId, serverId := server.id, serverGeneration := server.generation
            resolvedSpec := server.spec, fencingToken := server.nextFencingToken
            sourceSnapshotId := server.currentSnapshotId, dataPreparedAt := none
            processRunning := false, processObservedAt := none, resultSnapshotId := none
            stopRequestedAt := none, terminatedAt := none, terminalResult := none
            lastError := none, createdAt := time, updatedAt := time }
        -- SQLite turns an integer past 2^63 into a real, which a STRICT table refuses.
        if maximumI64 < server.nextFencingToken + 1 then (.error .database, database)
        else
          match insertRow instanceCheck instanceConflicts row database.serverInstances with
          | .stored serverInstances =>
              (.ok true, { database with
                  serverInstances
                  servers := Table.update (fun row => row.id = serverId)
                    (fun row => { row with nextFencingToken := row.nextFencingToken + 1 })
                    database.servers })
          | .uniqueViolation => (.error .database, database)
          | .checkViolation => (.error .database, database)
      else (.ok false, database)

def get (id : ServerInstanceId) : Query (Option ServerInstance) :=
  read fun database => (database.serverInstances.find? fun row => row.id = id).mapM decodeInstance

def getActiveForServer (id : ServerId) : Query (Option ServerInstance) :=
  read fun database =>
    (database.serverInstances.find? fun row => row.serverId = id && row.terminatedAt.isNone).mapM decodeInstance

def requestStop (id : ServerInstanceId) (now : UnixTimestampMillis) : Query Bool :=
  touchedOne <| updateInstances
    (fun row => row.id = id && row.terminatedAt.isNone && row.stopRequestedAt.isNone)
    (fun row => { row with
      stopRequestedAt := some (max now (max row.createdAt row.updatedAt))
      updatedAt := max now (max row.createdAt row.updatedAt) })

def markDataPrepared (id : ServerInstanceId) (now : UnixTimestampMillis) : Query Bool :=
  touchedOne <| updateInstances (fun row => row.id = id && row.terminatedAt.isNone) (fun row => { row with
      dataPreparedAt := some (row.dataPreparedAt.getD (max now row.createdAt))
      lastError := none
      updatedAt := max now (max row.updatedAt row.createdAt) })

def observeProcess (id : ServerInstanceId) (running : Bool) (now : UnixTimestampMillis) :
    Query Bool :=
  touchedOne <| updateInstances (fun row => row.id = id && row.terminatedAt.isNone) (fun row => { row with
      processRunning := running
      processObservedAt := some (max (max (row.processObservedAt.getD 0) now)
        (max row.updatedAt row.createdAt))
      lastError := none
      updatedAt := max now (max row.updatedAt row.createdAt) })

def recordError (id : ServerInstanceId) (message : String) (now : UnixTimestampMillis) :
    Query Unit :=
  ignoreCount <| updateInstances (fun row => row.id = id && row.terminatedAt.isNone) (fun row => { row with
      lastError := some (Text.takeChars maxErrorChars message)
      updatedAt := max now (max row.updatedAt row.createdAt) })

def complete (id : ServerInstanceId) (result : TerminalResult) (now : UnixTimestampMillis) :
    Query Bool :=
  touchedOne <| updateInstances (fun row => row.id = id && row.terminatedAt.isNone) (fun row => { row with
      processRunning := false
      processObservedAt := some (max (max (row.processObservedAt.getD 0) now)
        (max row.updatedAt row.createdAt))
      terminatedAt := some (max (max now row.updatedAt)
        (max row.createdAt (row.stopRequestedAt.getD 0)))
      terminalResult := some result
      updatedAt := max now (max row.updatedAt row.createdAt) })

end ServerInstanceRepository

namespace SnapshotRepository

def isPublishable (snapshotId : String) : Bool :=
  !Text.isBlank snapshotId && !Text.containsNul snapshotId && Text.charCount snapshotId ≤ maxSnapshotIdChars

def markPublished (snapshotId : String) (committedAt : UnixTimestampMillis) (row : ServerInstance) :
    ServerInstance :=
  { row with
    resultSnapshotId := some snapshotId
    updatedAt := max committedAt (max row.updatedAt row.createdAt) }

def markCurrent (snapshotId : String) (committedAt : UnixTimestampMillis) (row : ServerRow) : ServerRow :=
  { row with
    currentSnapshotId := some snapshotId
    updatedAt := max committedAt (max row.updatedAt row.createdAt) }

def isPublisher (id : ServerInstanceId) (fencingToken : Nat) (row : ServerInstance) : Bool :=
  row.id = id && row.terminatedAt.isNone && row.fencingToken = fencingToken

-- The UPDATE looks at the instances once more, as the update before it left them.
def mayPublish (found : ServerInstance) (fencingToken : Nat) (instances : List ServerInstance)
    (row : ServerRow) : Bool :=
  row.id = found.serverId && instances.any fun other =>
    other.id = found.id && other.serverId = row.id && other.fencingToken = fencingToken &&
      other.terminatedAt.isNone

def publish (found : ServerInstance) (fencingToken : Nat) (snapshotId : String)
    (committedAt : UnixTimestampMillis) (database : Database) :
    Except RepositoryError Bool × Database :=
  match updateInstances (isPublisher found.id fencingToken) (markPublished snapshotId committedAt)
      database with
  | (.error error, _) => (.error error, database)
  | (.ok touched, updated) =>
      if touched ≠ 1 then
        (.error (.conflict "server instance stopped before its snapshot could be published"), database)
      else
        match updateServers (mayPublish found fencingToken updated.serverInstances)
            (markCurrent snapshotId committedAt) updated with
        | (.error error, _) => (.error error, database)
        | (.ok touched, final) =>
            if touched ≠ 1 then
              (.error (.conflict "stale server instance cannot publish a snapshot"), database)
            else (.ok true, final)

def commit (instanceId : ServerInstanceId) (fencingToken : Nat) (snapshotId : String)
    (now : UnixTimestampMillis) : Query Bool := fun database =>
  if !isPublishable snapshotId then
    (.error (.corruptData "snapshot id must be non-blank, bounded, and contain no NUL byte"), database)
  else
    let joined := (database.serverInstances.find? fun row => row.id = instanceId).bind fun found =>
      (database.servers.find? fun row => row.id = found.serverId).map fun server => (found, server)
    match joined with
    | none => (.error (.conflict "server instance does not exist"), database)
    | some (found, server) =>
        match positiveU64ToI64 fencingToken with
        | .error error => (.error error, database)
        | .ok token =>
            if found.fencingToken ≠ token || found.terminatedAt.isSome then
              (.error (.conflict "stale server instance cannot publish a snapshot"), database)
            else
              match found.resultSnapshotId with
              | some existing =>
                  if existing = snapshotId then (.ok false, database)
                  else
                    (.error (.conflict "server instance already published another snapshot"), database)
              | none =>
                  let committedAt := max (max now found.updatedAt) server.updatedAt
                  let row : SnapshotRow :=
                    { id := snapshotId, serverId := found.serverId, serverInstanceId := instanceId
                      fencingToken := token, createdAt := committedAt }
                  match insertRow SnapshotRow.check SnapshotRow.conflicts row database.snapshots with
                  | .stored snapshots =>
                      let result := publish found token snapshotId committedAt { database with snapshots }
                      match result with
                      | (.ok published, final) => (.ok published, final)
                      -- The transaction is rolled back, the inserted row with it.
                      | (.error error, _) => (.error error, database)
                  | .uniqueViolation => (.error .database, database)
                  | .checkViolation => (.error .database, database)

end SnapshotRepository

inductive AgentAuthentication where
  | accepted
  | rejected
  deriving DecidableEq, Repr

structure AgentCertificateRecord where
  certificateSigningRequestPem : String
  certificateChainPem : String
  certificateDer : List UInt8
  certificateExpiresAt : UnixTimestampMillis
  recordedAt : UnixTimestampMillis
  deriving DecidableEq

structure AgentEnrollment where
  connectionToken : String
  certificateSigningRequestPem : Option String
  certificateChainPem : Option String
  certificateDer : Option (List UInt8)
  certificateExpiresAt : Option UnixTimestampMillis
  deriving DecidableEq

namespace ComputeInstanceRepository

def decodeComputeInstance (row : ComputeRow) : Except RepositoryError ComputeInstance :=
  row.toComputeInstance.rehydrate.mapError .computeInstanceValidation

def insertForInstance (id : ComputeInstanceId) (instanceId : ServerInstanceId)
    (provider : ComputeProvider) (connectionToken : String) (enrollmentToken : Option String)
    (now : UnixTimestampMillis) : Query Bool := fun database =>
  let instanceIsActive := database.serverInstances.any fun row =>
    row.id = instanceId && row.terminatedAt.isNone
  if instanceIsActive && !database.hasActiveCompute instanceId then
    let row : ComputeRow :=
      { id, serverInstanceId := instanceId, provider, providerInstanceId := none, publicIpv4 := none
        connectionToken, enrollmentToken, processId := none, agentConnectedAt := none
        shutdownRequestedAt := none, terminatedAt := none, terminalResult := none
        failureMessage := none, createdAt := now, updatedAt := now
        agentCsrPem := none, agentCertificateChainPem := none, agentCertificateDer := none
        agentCertificateExpiresAt := none }
    match insertRow ComputeRow.check ComputeRow.conflicts row database.computeInstances with
    | .stored computeInstances => (.ok true, { database with computeInstances })
    | .uniqueViolation => (.ok false, database)
    | .checkViolation => (.error .database, database)
  else (.ok false, database)

def get (id : ComputeInstanceId) : Query (Option ComputeInstance) :=
  read fun database => (database.computeInstances.find? fun row => row.id = id).mapM decodeComputeInstance

def getActiveForInstance (id : ServerInstanceId) : Query (Option ComputeInstance) :=
  read fun database =>
    (database.computeInstances.find? fun row =>
      row.serverInstanceId = id && row.terminatedAt.isNone).mapM decodeComputeInstance

def orderById (rows : List ComputeRow) : List ComputeRow :=
  rows.insertionSort fun first second => first.id.uuid.toNat ≤ second.id.uuid.toNat

def listActiveLocalOwnership : Query (List (ComputeInstanceId × ServerInstanceId)) :=
  read fun database =>
    let rows := database.computeInstances.filter fun row =>
      row.terminatedAt.isNone && row.provider = .localProcess
    .ok ((orderById rows).map fun row => (row.id, row.serverInstanceId))

def listActiveAkamai : Query (List ComputeInstance) :=
  read fun database =>
    let rows := database.computeInstances.filter fun row =>
      row.terminatedAt.isNone && row.provider = .akamai
    (orderById rows).mapM decodeComputeInstance

def recordProcessId (id : ComputeInstanceId) (processId : Nat) (now : UnixTimestampMillis) :
    Query Bool :=
  touchedOne <| updateComputes
    (fun row => row.id = id && row.terminatedAt.isNone && row.provider = .localProcess)
    (fun row => { row with
      processId := some processId
      failureMessage := none
      updatedAt := max now (max row.updatedAt row.createdAt) })

def recordProviderInstance (id : ComputeInstanceId) (providerInstanceId : String)
    (publicIpv4 : Option String) (now : UnixTimestampMillis) : Query Bool :=
  touchedOne <| updateComputes (fun row => row.id = id && row.terminatedAt.isNone && row.provider = .akamai)
    (fun row => { row with
      providerInstanceId := some providerInstanceId
      publicIpv4
      failureMessage := none
      updatedAt := max now (max row.updatedAt row.createdAt) })

def getAgentEnrollment (id : ComputeInstanceId) (enrollmentToken : String) :
    Query (Option AgentEnrollment) :=
  read fun database =>
    .ok ((database.computeInstances.find? fun row =>
      row.id = id && row.provider = .akamai && row.enrollmentToken = some enrollmentToken &&
        row.terminatedAt.isNone).map fun row =>
      { connectionToken := row.connectionToken
        certificateSigningRequestPem := row.agentCsrPem
        certificateChainPem := row.agentCertificateChainPem
        certificateDer := row.agentCertificateDer
        certificateExpiresAt := row.agentCertificateExpiresAt })

def recordAgentCertificate (id : ComputeInstanceId) (enrollmentToken : String)
    (certificate : AgentCertificateRecord) : Query Bool :=
  touchedOne <| updateComputes (fun row => row.id = id && row.provider = .akamai &&
      row.enrollmentToken = some enrollmentToken && row.agentCsrPem.isNone &&
      row.terminatedAt.isNone)
    (fun row => { row with
      agentCsrPem := some certificate.certificateSigningRequestPem
      agentCertificateChainPem := some certificate.certificateChainPem
      agentCertificateDer := some certificate.certificateDer
      agentCertificateExpiresAt := some certificate.certificateExpiresAt
      failureMessage := none
      updatedAt := max certificate.recordedAt (max row.updatedAt row.createdAt) })

def connectedAt (row : ComputeRow) (now : UnixTimestampMillis) : UnixTimestampMillis :=
  max (max (row.agentConnectedAt.getD 0) now) (max row.updatedAt row.createdAt)

def authentication (touched : Bool) : AgentAuthentication := if touched then .accepted else .rejected

def authenticateAgent (id : ComputeInstanceId) (expectedProvider : ComputeProvider)
    (presentedToken : String) (presentedCertificateDer : Option (List UInt8))
    (now : UnixTimestampMillis) : Query AgentAuthentication := fun database =>
  match expectedProvider with
  | .localProcess =>
      let result := touchedOne (updateComputes
        (fun row => row.id = id && row.provider = .localProcess &&
          row.connectionToken = presentedToken && row.terminatedAt.isNone)
        (fun row => { row with
          agentConnectedAt := some (connectedAt row now)
          failureMessage := none
          updatedAt := max now (max row.updatedAt row.createdAt) })) database
      (result.1.map authentication, result.2)
  | .akamai =>
      match presentedCertificateDer with
      | none => (.ok .rejected, database)
      | some certificateDer =>
          let result := touchedOne (updateComputes
            (fun row => row.id = id && row.provider = .akamai && row.connectionToken = presentedToken &&
              row.agentCertificateDer = some certificateDer &&
              (row.agentCertificateExpiresAt.any fun expires => now < expires) &&
              row.terminatedAt.isNone)
            (fun row => { row with
              enrollmentToken := none
              agentConnectedAt := some (connectedAt row now)
              failureMessage := none
              updatedAt := max now (max row.updatedAt row.createdAt) })) database
          (result.1.map authentication, result.2)

def requestShutdown (id : ComputeInstanceId) (now : UnixTimestampMillis) : Query Bool :=
  touchedOne <| updateComputes (fun row => row.id = id && row.terminatedAt.isNone) (fun row => { row with
      shutdownRequestedAt := some (row.shutdownRequestedAt.getD (max now row.createdAt))
      updatedAt := max now (max row.updatedAt row.createdAt) })

def terminate (id : ComputeInstanceId) (result : ComputeTerminalResult)
    (failureMessage : Option String) (now : UnixTimestampMillis) : Query Bool :=
  touchedOne <| updateComputes (fun row => row.id = id && row.terminatedAt.isNone) (fun row => { row with
      terminatedAt := some (max now (max row.updatedAt row.createdAt))
      terminalResult := some result
      failureMessage
      updatedAt := max now (max row.updatedAt row.createdAt) })

end ComputeInstanceRepository

end McServer.Store
