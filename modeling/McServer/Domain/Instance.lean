import McServer.Domain.Server

set_option autoImplicit false

namespace McServer.Domain

structure ServerInstanceId where
  uuid : Uuid
  deriving DecidableEq, Repr

structure ComputeInstanceId where
  uuid : Uuid
  deriving DecidableEq, Repr

def maxErrorChars : Nat := 8192
def maxConnectionTokenChars : Nat := 256
def maxProviderInstanceIdChars : Nat := 256
def maxPublicIpv4Chars : Nat := 64
def maxFailureMessageChars : Nat := 8192

inductive TerminalResult where
  | completed
  | failed
  deriving DecidableEq, Repr

inductive ServerInstanceValidationError where
  | zeroServerGeneration
  | zeroFencingToken
  | invalidResolvedSpec (source : ValidationError)
  | incompleteTerminalState
  | missingProcessObservation
  | invalidTimestampOrder
  | blankField (field : String)
  | nulByte (field : String)
  | fieldTooLong (field : String) (maximum : Nat)
  | blankLastError
  deriving DecidableEq, Repr

structure ServerInstance where
  id : ServerInstanceId
  serverId : ServerId
  serverGeneration : Nat
  resolvedSpec : ServerSpec
  fencingToken : Nat
  sourceSnapshotId : Option String
  dataPreparedAt : Option UnixTimestampMillis
  processRunning : Bool
  processObservedAt : Option UnixTimestampMillis
  resultSnapshotId : Option String
  stopRequestedAt : Option UnixTimestampMillis
  terminatedAt : Option UnixTimestampMillis
  terminalResult : Option TerminalResult
  lastError : Option String
  createdAt : UnixTimestampMillis
  updatedAt : UnixTimestampMillis
  deriving DecidableEq

namespace ServerInstance

def isActive (server_instance : ServerInstance) : Bool := server_instance.terminatedAt.isNone

def requireSnapshotId (field : String) (value : Option String) :
    Except ServerInstanceValidationError Unit := do
  if value.any Text.isBlank then throw (.blankField field)
  if value.any Text.containsNul then throw (.nulByte field)
  if value.any fun text => maxSnapshotIdChars < Text.charCount text then
    throw (.fieldTooLong field maxSnapshotIdChars)

-- Every check `rehydrate` makes on the columns of a row, in the source's order.
def check (row : ServerInstance) : Except ServerInstanceValidationError Unit := do
  if row.serverGeneration = 0 then throw .zeroServerGeneration
  if row.fencingToken = 0 then throw .zeroFencingToken
  match row.resolvedSpec.validate with
  | .error error => throw (.invalidResolvedSpec error)
  | .ok () => pure ()
  if row.terminatedAt.isSome ≠ row.terminalResult.isSome then throw .incompleteTerminalState
  if row.processRunning && row.processObservedAt.isNone then throw .missingProcessObservation
  if row.lastError.any Text.isBlank then throw .blankLastError
  if row.lastError.any Text.containsNul then throw (.nulByte "last_error")
  if row.lastError.any fun message => maxErrorChars < Text.charCount message then
    throw (.fieldTooLong "last_error" maxErrorChars)
  if [row.dataPreparedAt, row.processObservedAt, row.stopRequestedAt, row.terminatedAt].any fun time =>
      time.any fun value => value < row.createdAt || row.updatedAt < value then
    throw .invalidTimestampOrder
  if row.updatedAt < row.createdAt then throw .invalidTimestampOrder
  if row.terminatedAt.any fun terminated =>
      [row.dataPreparedAt, row.processObservedAt, row.stopRequestedAt].any fun time =>
        time.any fun prior => terminated < prior then
    throw .invalidTimestampOrder
  requireSnapshotId "source_snapshot_id" row.sourceSnapshotId
  requireSnapshotId "result_snapshot_id" row.resultSnapshotId

def rehydrate (row : ServerInstance) : Except ServerInstanceValidationError ServerInstance :=
  row.check.map fun _ => row

theorem rehydrate_ok {row value : ServerInstance} (accepted : row.rehydrate = .ok value) :
    value = row := by
  cases checked : row.check with
  | error error => simp [rehydrate, checked, Except.map] at accepted
  | ok _ => simpa [rehydrate, checked, Except.map] using accepted.symm

end ServerInstance

inductive ComputeProvider where
  | localProcess
  | akamai
  deriving DecidableEq, Repr

inductive ComputeTerminalResult where
  | deleted
  | failed
  deriving DecidableEq, Repr

inductive ComputeInstanceValidationError where
  | blankField (field : String)
  | invalidProviderFields (provider : ComputeProvider)
  | invalidPublicIpv4 (address : String)
  | incompleteTerminalState
  | invalidTimestampOrder
  | nulByte (field : String)
  | fieldTooLong (field : String) (maximum : Nat)
  deriving DecidableEq, Repr

structure ComputeInstance where
  id : ComputeInstanceId
  serverInstanceId : ServerInstanceId
  provider : ComputeProvider
  providerInstanceId : Option String
  publicIpv4 : Option String
  connectionToken : String
  enrollmentToken : Option String
  processId : Option Nat
  agentConnectedAt : Option UnixTimestampMillis
  shutdownRequestedAt : Option UnixTimestampMillis
  terminatedAt : Option UnixTimestampMillis
  terminalResult : Option ComputeTerminalResult
  failureMessage : Option String
  createdAt : UnixTimestampMillis
  updatedAt : UnixTimestampMillis
  deriving DecidableEq

namespace ComputeInstance

def isActive (compute : ComputeInstance) : Bool := compute.terminatedAt.isNone

def validateRequired (field value : String) (maximum : Nat) :
    Except ComputeInstanceValidationError Unit := do
  if Text.isBlank value then throw (.blankField field)
  if Text.containsNul value then throw (.nulByte field)
  if maximum < Text.charCount value then throw (.fieldTooLong field maximum)

def validateOptional (field : String) (value : Option String) (maximum : Nat) :
    Except ComputeInstanceValidationError Unit :=
  match value with
  | some text => validateRequired field text maximum
  | none => .ok ()

-- `Ipv4Addr::from_str`: four dotted decimal octets without leading zeros.
def isIpv4Octet (digits : List Char) : Bool :=
  !digits.isEmpty && digits.length ≤ 3 && digits.all Text.isAsciiDigit &&
    (digits.length == 1 || digits.head? != some '0') &&
    digits.foldl (fun value digit => value * 10 + (digit.toNat - '0'.toNat)) 0 ≤ 255

def isIpv4 (address : String) : Bool :=
  let octets := address.toList.splitOn '.'
  octets.length == 4 && octets.all isIpv4Octet

def validateProviderFields (row : ComputeInstance) : Except ComputeInstanceValidationError Unit :=
  match row.provider with
  | .localProcess =>
      if row.providerInstanceId.isSome || row.publicIpv4.isSome || row.enrollmentToken.isSome then
        .error (.invalidProviderFields row.provider)
      else .ok ()
  | .akamai =>
      if row.processId.isSome then .error (.invalidProviderFields row.provider)
      else
        match row.publicIpv4 with
        | some address => if isIpv4 address then .ok () else .error (.invalidPublicIpv4 address)
        | none => .ok ()

def check (row : ComputeInstance) : Except ComputeInstanceValidationError Unit := do
  validateRequired "connection_token" row.connectionToken maxConnectionTokenChars
  validateOptional "enrollment_token" row.enrollmentToken maxConnectionTokenChars
  validateOptional "provider_instance_id" row.providerInstanceId maxProviderInstanceIdChars
  validateOptional "public_ipv4" row.publicIpv4 maxPublicIpv4Chars
  validateProviderFields row
  if row.terminatedAt.isSome ≠ row.terminalResult.isSome then throw .incompleteTerminalState
  if [row.agentConnectedAt, row.shutdownRequestedAt, row.terminatedAt].any fun time =>
      time.any fun value => value < row.createdAt || row.updatedAt < value then
    throw .invalidTimestampOrder
  if row.updatedAt < row.createdAt then throw .invalidTimestampOrder
  if row.terminatedAt.any fun terminated =>
      [row.agentConnectedAt, row.shutdownRequestedAt].any fun time =>
        time.any fun prior => terminated < prior then
    throw .invalidTimestampOrder
  validateOptional "failure_message" row.failureMessage maxFailureMessageChars

def rehydrate (row : ComputeInstance) : Except ComputeInstanceValidationError ComputeInstance :=
  row.check.map fun _ => row

theorem rehydrate_ok {row value : ComputeInstance} (accepted : row.rehydrate = .ok value) :
    value = row := by
  cases checked : row.check with
  | error error => simp [rehydrate, checked, Except.map] at accepted
  | ok _ => simpa [rehydrate, checked, Except.map] using accepted.symm

end ComputeInstance

end McServer.Domain
