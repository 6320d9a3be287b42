import McServer.Domain.Instance
import McServer.Library.Table

set_option autoImplicit false

namespace McServer.Store

open Domain

inductive RepositoryError where
  | database
  | migration
  | serialization
  | timestamp
  | validation (source : ValidationError)
  | serverInstanceValidation (source : ServerInstanceValidationError)
  | computeInstanceValidation (source : ComputeInstanceValidationError)
  | corruptData (detail : String)
  | integerOutOfRange
  | conflict (detail : String)
  | invalidArchiveState
  deriving DecidableEq, Repr

def RepositoryError.message : RepositoryError → String
  | .database => "database operation failed"
  | .migration => "database migration failed"
  | .serialization => "persisted JSON data is invalid"
  | .timestamp => "persisted timestamp is invalid"
  | .validation _ => "persisted server data is invalid"
  | .serverInstanceValidation _ => "persisted server instance data is invalid"
  | .computeInstanceValidation _ => "persisted compute instance data is invalid"
  | .corruptData detail => s!"persisted data is corrupt: {detail}"
  | .integerOutOfRange => "persisted integer is outside the supported positive 64-bit range"
  | .conflict detail => s!"resource conflict: {detail}"
  | .invalidArchiveState =>
      "server repository received a non-archived server for archive persistence"

structure ServerRow extends Server where
  nextFencingToken : Nat
  deriving DecidableEq

-- The columns of `compute_instances`: those of the domain value and the four the agent's
-- certificate occupies.
structure ComputeRow extends ComputeInstance where
  agentCsrPem : Option String
  agentCertificateChainPem : Option String
  agentCertificateDer : Option (List UInt8)
  agentCertificateExpiresAt : Option UnixTimestampMillis
  deriving DecidableEq

structure SnapshotRow where
  id : String
  serverId : ServerId
  serverInstanceId : ServerInstanceId
  fencingToken : Nat
  createdAt : UnixTimestampMillis
  deriving DecidableEq

structure Database where
  servers : List ServerRow
  serverInstances : List ServerInstance
  computeInstances : List ComputeRow
  snapshots : List SnapshotRow
  deriving DecidableEq

def Database.empty : Database := ⟨[], [], [], []⟩

-- `length(trim(x)) > 0 AND length(x) <= n AND instr(x, char(0)) = 0`; SQLite trims spaces only.
def textWithin (maximum : Nat) (value : String) : Bool :=
  (value.toList.any fun char => char != ' ') && Text.charCount value ≤ maximum && !Text.containsNul value

def bytesWithin (maximum : Nat) (value : String) : Bool :=
  !value.toList.isEmpty && Text.charCount value ≤ maximum && !Text.containsNul value

def between (low high : UnixTimestampMillis) (value : Option UnixTimestampMillis) : Bool :=
  value.all fun time => low ≤ time && time ≤ high

def ServerRow.check (row : ServerRow) : Bool :=
  textWithin 128 row.name.asStr && 0 < row.generation &&
    row.currentSnapshotId.all (textWithin 256) && 0 < row.nextFencingToken &&
    row.createdAt ≤ row.updatedAt && between row.createdAt row.updatedAt row.archivedAt &&
    (row.archivedAt.isNone || row.desiredState == .stopped)

def instanceCheck (row : ServerInstance) : Bool :=
  0 < row.serverGeneration && 0 < row.fencingToken && row.sourceSnapshotId.all (textWithin 256) &&
    row.resultSnapshotId.all (textWithin 256) && row.lastError.all (textWithin 8192) &&
    row.createdAt ≤ row.updatedAt && row.terminatedAt.isSome == row.terminalResult.isSome &&
    (!row.processRunning || row.processObservedAt.isSome) &&
    (row.terminatedAt.isNone || !row.processRunning) &&
    between row.createdAt row.updatedAt row.dataPreparedAt &&
    between row.createdAt row.updatedAt row.processObservedAt &&
    between row.createdAt row.updatedAt row.stopRequestedAt &&
    between row.createdAt row.updatedAt row.terminatedAt &&
    row.terminatedAt.all fun terminated =>
      max (max (row.dataPreparedAt.getD 0) (row.processObservedAt.getD 0))
        (row.stopRequestedAt.getD 0) ≤ terminated

def ComputeRow.providerColumns (row : ComputeRow) : Bool :=
  match row.provider with
  | .localProcess =>
      row.providerInstanceId.isNone && row.publicIpv4.isNone && row.enrollmentToken.isNone &&
        row.agentCsrPem.isNone && row.agentCertificateChainPem.isNone &&
        row.agentCertificateDer.isNone && row.agentCertificateExpiresAt.isNone
  | .akamai => row.processId.isNone

def ComputeRow.certificateColumns (row : ComputeRow) : Bool :=
  (row.agentCsrPem.isNone && row.agentCertificateChainPem.isNone &&
      row.agentCertificateDer.isNone && row.agentCertificateExpiresAt.isNone) ||
    (row.agentCsrPem.isSome && row.agentCertificateChainPem.isSome &&
      row.agentCertificateDer.isSome && row.agentCertificateExpiresAt.isSome)

def ComputeRow.check (row : ComputeRow) : Bool :=
  row.providerInstanceId.all (textWithin 256) && row.publicIpv4.all (textWithin 64) &&
    textWithin 256 row.connectionToken && row.enrollmentToken.all (textWithin 256) &&
    row.agentCsrPem.all (bytesWithin 32768) && row.agentCertificateChainPem.all (bytesWithin 65536) &&
    (row.agentCertificateDer.all fun der => 1 ≤ der.length && der.length ≤ 65536) &&
    row.processId.all (0 < ·) && row.failureMessage.all (textWithin 8192) &&
    row.createdAt ≤ row.updatedAt && row.terminatedAt.isSome == row.terminalResult.isSome &&
    row.providerColumns && row.certificateColumns &&
    row.agentCertificateExpiresAt.all (row.createdAt ≤ ·) &&
    between row.createdAt row.updatedAt row.agentConnectedAt &&
    between row.createdAt row.updatedAt row.shutdownRequestedAt &&
    between row.createdAt row.updatedAt row.terminatedAt &&
    row.terminatedAt.all fun terminated =>
      max (row.agentConnectedAt.getD 0) (row.shutdownRequestedAt.getD 0) ≤ terminated

def SnapshotRow.check (row : SnapshotRow) : Bool :=
  textWithin 256 row.id && 0 < row.fencingToken

-- PRIMARY KEY and UNIQUE columns, partial indexes included.
def ServerRow.conflicts (row other : ServerRow) : Bool := row.id = other.id || row.name = other.name

def instanceConflicts (row other : ServerInstance) : Bool :=
  row.id = other.id || (row.serverId = other.serverId && row.fencingToken = other.fencingToken) ||
    (row.serverId = other.serverId && row.isActive && other.isActive)

def ComputeRow.conflicts (row other : ComputeRow) : Bool :=
  row.id = other.id || (row.serverInstanceId = other.serverInstanceId && row.isActive && other.isActive)

def SnapshotRow.conflicts (row other : SnapshotRow) : Bool :=
  row.serverId = other.serverId && (row.id = other.id || row.fencingToken = other.fencingToken)

abbrev Query (A : Type) := Database → Except RepositoryError A × Database

def read {A : Type} (query : Database → Except RepositoryError A) : Query A :=
  fun database => (query database, database)

variable {Row : Type}

inductive InsertOutcome (Row : Type) where
  | stored (rows : List Row)
  | uniqueViolation
  | checkViolation

def insertRow (check : Row → Bool) (conflicts : Row → Row → Bool) (row : Row) (rows : List Row) :
    InsertOutcome Row :=
  if !check row then .checkViolation
  else if rows.any (conflicts row) then .uniqueViolation
  else .stored (rows ++ [row])

def updateRows (check : Row → Bool) (selects : Row → Bool) (set : Row → Row) (rows : List Row) :
    Option (List Row) :=
  if rows.all fun row => !selects row || check (set row) then some (Table.update selects set rows)
  else none

def updateTable (check : Row → Bool) (rows : Database → List Row)
    (replace : Database → List Row → Database) (selects : Row → Bool) (set : Row → Row) : Query Nat :=
  fun database =>
    match updateRows check selects set (rows database) with
    | some updated => (.ok (Table.affected selects (rows database)), replace database updated)
    | none => (.error .database, database)

abbrev updateServers : (ServerRow → Bool) → (ServerRow → ServerRow) → Query Nat :=
  updateTable ServerRow.check Database.servers fun database servers => { database with servers }

abbrev updateInstances : (ServerInstance → Bool) → (ServerInstance → ServerInstance) → Query Nat :=
  updateTable instanceCheck Database.serverInstances fun database serverInstances =>
    { database with serverInstances }

abbrev updateComputes : (ComputeRow → Bool) → (ComputeRow → ComputeRow) → Query Nat :=
  updateTable ComputeRow.check Database.computeInstances fun database computeInstances =>
    { database with computeInstances }

-- `rows_affected() == 1`
def touchedOne (query : Query Nat) : Query Bool :=
  fun database => ((query database).1.map (· == 1), (query database).2)

def ignoreCount (query : Query Nat) : Query Unit :=
  fun database => ((query database).1.map fun _ => (), (query database).2)

end McServer.Store
