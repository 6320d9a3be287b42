import McServer.Domain.Text
import McServer.Library.Accepts

set_option autoImplicit false

namespace McServer.Domain

structure ServerId where
  uuid : Uuid
  deriving DecidableEq, Repr

inductive ValidationError where
  | blankField (field : String)
  | fieldTooLong (field : String) (maximum : Nat)
  | invalidServerName (value : String)
  | nulByte (field : String)
  | zeroValue (field : String)
  | eulaNotAccepted
  | tooManyEnvironmentVariables (maximum : Nat)
  | invalidEnvironmentKey (key : String)
  | reservedEnvironmentKey (key : String)
  | zeroGeneration
  | generationOverflow
  | serverMustBeStopped
  | archivedServerMustBeStopped
  | serverArchived
  | dataBackendImmutable
  | dataRepositoryImmutable
  | r2Unavailable
  | invalidTimestampOrder
  | invalidComputeIdentifier (field value : String)
  deriving DecidableEq, Repr

def ValidationError.message : ValidationError → String
  | .blankField field => s!"{field} must not be blank"
  | .fieldTooLong field maximum => s!"{field} must be no longer than {maximum} characters"
  | .invalidServerName _ =>
      "server name must be a 1-63 character lowercase DNS label using only letters, digits, and hyphens"
  | .nulByte field => s!"{field} must not contain a NUL byte"
  | .zeroValue field => s!"{field} must be greater than zero"
  | .eulaNotAccepted => "Minecraft EULA acceptance must be explicit"
  | .tooManyEnvironmentVariables maximum =>
      s!"process environment contains more than {maximum} entries"
  | .invalidEnvironmentKey key => s!"process environment key is invalid: {key}"
  | .reservedEnvironmentKey key => s!"process environment key is managed by the system: {key}"
  | .zeroGeneration => "server generation must be greater than zero"
  | .generationOverflow => "server generation overflowed"
  | .serverMustBeStopped => "server specification can only be changed while stopped"
  | .archivedServerMustBeStopped => "archived server must be stopped"
  | .serverArchived => "archived server cannot be changed or started"
  | .dataBackendImmutable => "server data backend cannot be changed"
  | .dataRepositoryImmutable => "server data repository cannot be changed"
  | .r2Unavailable => "R2 storage is not configured"
  | .invalidTimestampOrder => "server timestamps are not in chronological order"
  | .invalidComputeIdentifier field value => s!"{field} contains unsupported characters: {value}"

def reservedEnvironmentKeys : List String := ["EULA", "TYPE", "VERSION", "SKIP_SERVER_PROPERTIES"]
def maxContainerImageChars : Nat := 512
def maxServerTypeChars : Nat := 128
def maxVersionChars : Nat := 128
def maxRepositoryChars : Nat := 4096
def maxEnvironmentEntries : Nat := 128
def maxEnvironmentKeyChars : Nat := 128
def maxEnvironmentValueChars : Nat := 8192
def maxSnapshotIdChars : Nat := 256
def maxAkamaiRegionChars : Nat := 64
def maxAkamaiTypeChars : Nat := 128
def maxAkamaiImageChars : Nat := 256
def maxServerNameChars : Nat := 63

def requireNonBlank (field value : String) : Except ValidationError Unit :=
  if Text.isBlank value then .error (.blankField field) else .ok ()

def requireMaximumLength (field value : String) (maximum : Nat) : Except ValidationError Unit :=
  if maximum < Text.charCount value then .error (.fieldTooLong field maximum) else .ok ()

def rejectNul (field value : String) : Except ValidationError Unit :=
  if Text.containsNul value then .error (.nulByte field) else .ok ()

-- The three checks every bounded text field of a specification goes through, in order.
def requireText (field value : String) (maximum : Nat) : Except ValidationError Unit := do
  requireNonBlank field value
  requireMaximumLength field value maximum
  rejectNul field value

def isValidEnvironmentKey (value : String) : Bool :=
  match value.toList with
  | [] => false
  | first :: rest =>
      (first == '_' || Text.isAsciiAlphabetic first) &&
        rest.all fun char => char == '_' || Text.isAsciiAlphanumeric char

namespace ServerName

def isNameChar (char : Char) : Bool := Text.isAsciiLowercase char || Text.isAsciiDigit char

def isValid (value : String) : Bool :=
  !value.toList.isEmpty && value.utf8ByteSize ≤ maxServerNameChars &&
    value.toList.head?.any isNameChar && value.toList.getLast?.any isNameChar &&
    value.toList.all fun char => isNameChar char || char == '-'

end ServerName

structure ServerName where
  asStr : String
  valid : ServerName.isValid asStr = true
  deriving DecidableEq

def ServerName.new (value : String) : Except ValidationError ServerName :=
  if value.toList.isEmpty then .error (.blankField "name")
  else if maxServerNameChars < value.utf8ByteSize then
    .error (.fieldTooLong "name" maxServerNameChars)
  else if valid : ServerName.isValid value = true then .ok ⟨value, valid⟩
  else .error (.invalidServerName value)

theorem ServerName.new_ok {value : String} {name : ServerName}
    (accepted : ServerName.new value = .ok name) : name.asStr = value := by
  unfold ServerName.new at accepted
  split at accepted
  · cases accepted
  · split at accepted
    · cases accepted
    · split at accepted
      · injection accepted with same
        rw [← same]
      · cases accepted

theorem ServerName.ext_asStr {first second : ServerName} (same : first.asStr = second.asStr) :
    first = second := by
  cases first
  cases second
  simpa using same

inductive DesiredState where
  | running
  | stopped
  deriving DecidableEq, Repr

inductive ComputeSpec where
  | local
  | akamai (region instanceType image : String) (firewallId : UInt64)
  deriving DecidableEq

def isComputeIdentifierChar (char : Char) : Bool :=
  Text.isAsciiAlphanumeric char || char == '-' || char == '_' || char == '/' || char == '.'

def requireComputeIdentifier (field value : String) (maximum : Nat) :
    Except ValidationError Unit := do
  requireText field value maximum
  if value.toList.all isComputeIdentifierChar then .ok ()
  else .error (.invalidComputeIdentifier field value)

def ComputeSpec.validate : ComputeSpec → Except ValidationError Unit
  | .local => .ok ()
  | .akamai region instanceType image firewallId => do
      requireComputeIdentifier "compute.region" region maxAkamaiRegionChars
      requireComputeIdentifier "compute.instance_type" instanceType maxAkamaiTypeChars
      requireComputeIdentifier "compute.image" image maxAkamaiImageChars
      if firewallId = 0 then .error (.zeroValue "compute.firewall_id") else .ok ()

-- A `BTreeMap` of settings: the entries in key order, each key once.
structure Environment where
  entries : List (String × String)
  ordered : entries.Pairwise fun first second => first.1 < second.1
  deriving DecidableEq

def Environment.empty : Environment := ⟨[], List.Pairwise.nil⟩

structure ProcessSpec where
  containerImage : String
  serverType : String
  version : String
  hostPort : UInt16
  stopTimeoutSeconds : UInt64
  acceptEula : Bool
  environment : Environment
  deriving DecidableEq

inductive DesiredDataSpec where
  | localRestic (repository : String)
  | r2Restic
  deriving DecidableEq

inductive DataBackend where
  | localRestic
  | r2Restic
  deriving DecidableEq, Repr

structure DataSpec where
  backend : DataBackend
  repository : String
  deriving DecidableEq

structure DesiredServerSpec where
  compute : ComputeSpec
  process : ProcessSpec
  data : DesiredDataSpec
  deriving DecidableEq

structure ServerSpec where
  compute : ComputeSpec
  process : ProcessSpec
  data : DataSpec
  deriving DecidableEq

def requireEnvironmentEntry (key value : String) : Except ValidationError Unit := do
  requireNonBlank "process.environment key" key
  requireMaximumLength "process.environment key" key maxEnvironmentKeyChars
  requireMaximumLength "process.environment value" value maxEnvironmentValueChars
  rejectNul "process.environment key" key
  rejectNul "process.environment value" value
  if !isValidEnvironmentKey key then .error (.invalidEnvironmentKey key)
  else if reservedEnvironmentKeys.contains key then .error (.reservedEnvironmentKey key)
  else .ok ()

def ServerSpec.validate (spec : ServerSpec) : Except ValidationError Unit := do
  spec.compute.validate
  requireText "process.container_image" spec.process.containerImage maxContainerImageChars
  requireText "process.server_type" spec.process.serverType maxServerTypeChars
  requireText "process.version" spec.process.version maxVersionChars
  requireText "data.repository" spec.data.repository maxRepositoryChars
  if spec.process.hostPort = 0 then throw (.zeroValue "process.host_port")
  if spec.process.stopTimeoutSeconds = 0 then throw (.zeroValue "process.stop_timeout_seconds")
  if !spec.process.acceptEula then throw .eulaNotAccepted
  if maxEnvironmentEntries < spec.process.environment.entries.length then
    throw (.tooManyEnvironmentVariables maxEnvironmentEntries)
  spec.process.environment.entries.forM fun entry => requireEnvironmentEntry entry.1 entry.2

def DesiredDataSpec.resolve (desired : DesiredDataSpec) (existingData : Option DataSpec)
    (r2Repository : Option String) : Except ValidationError DataSpec :=
  match desired with
  | .localRestic repository =>
      match existingData with
      | some data =>
          if data.backend ≠ .localRestic then .error .dataBackendImmutable
          else if data.repository ≠ repository then .error .dataRepositoryImmutable
          else .ok data
      | none => .ok { backend := .localRestic, repository }
  | .r2Restic =>
      match existingData with
      | some data =>
          if data.backend = .r2Restic then
            .ok { backend := .r2Restic, repository := data.repository }
          else .error .dataBackendImmutable
      | none =>
          match r2Repository with
          | some repository => .ok { backend := .r2Restic, repository }
          | none => .error .r2Unavailable

def DesiredServerSpec.resolve (desired : DesiredServerSpec) (existingData : Option DataSpec)
    (r2Repository : Option String) : Except ValidationError ServerSpec := do
  let data ← desired.data.resolve existingData r2Repository
  let spec : ServerSpec := { compute := desired.compute, process := desired.process, data }
  spec.validate
  return spec

variable {r2Repository : Option String} {existingData : Option DataSpec}

theorem DesiredDataSpec.resolve_existing {desired : DesiredDataSpec} {existing data : DataSpec}
    (accepted : desired.resolve (some existing) r2Repository = .ok data) : data = existing := by
  cases desired with
  | localRestic repository =>
    simp only [DesiredDataSpec.resolve] at accepted
    split_ifs at accepted
    injection accepted with same
    exact same.symm
  | r2Restic =>
    simp only [DesiredDataSpec.resolve] at accepted
    split_ifs at accepted with backend
    injection accepted with same
    rw [← same, ← backend]

theorem DesiredDataSpec.resolve_local {desired : DesiredDataSpec} {data : DataSpec}
    (accepted : desired.resolve existingData r2Repository = .ok data)
    (ownRepository : data.backend = .localRestic) : desired = .localRestic data.repository := by
  cases desired with
  | localRestic repository =>
    cases existingData with
    | none =>
      injection accepted with same
      rw [← same]
    | some existing =>
      simp only [DesiredDataSpec.resolve] at accepted
      split_ifs at accepted with backend repository
      injection accepted with same
      rw [← same, not_not.mp repository]
  | r2Restic =>
    cases existingData with
    | none =>
      cases r2Repository with
      | none => cases accepted
      | some repository =>
        injection accepted with same
        rw [← same] at ownRepository
        cases ownRepository
    | some existing =>
      simp only [DesiredDataSpec.resolve] at accepted
      split_ifs at accepted
      injection accepted with same
      rw [← same] at ownRepository
      cases ownRepository

theorem DesiredServerSpec.resolve_iff {desired : DesiredServerSpec} {spec : ServerSpec} :
    desired.resolve existingData r2Repository = .ok spec ↔
      desired.data.resolve existingData r2Repository = .ok spec.data ∧ spec.compute = desired.compute ∧
        spec.process = desired.process ∧ spec.validate = .ok () := by
  unfold DesiredServerSpec.resolve
  constructor
  · intro accepted
    cases resolved : desired.data.resolve existingData r2Repository with
    | error error =>
      rw [resolved] at accepted
      cases accepted
    | ok data =>
      rw [resolved] at accepted
      cases valid : ServerSpec.validate { compute := desired.compute, process := desired.process, data } with
      | error error =>
        simp only [bind, Except.bind, valid] at accepted
        cases accepted
      | ok _ =>
        simp only [bind, Except.bind, valid] at accepted
        injection accepted with same
        rw [← same]
        exact ⟨rfl, rfl, rfl, valid⟩
  · rintro ⟨resolved, compute, process, valid⟩
    have same : spec = { compute := desired.compute, process := desired.process, data := spec.data } := by
      rw [← compute, ← process]
    rw [same] at valid
    rw [resolved]
    simp only [bind, Except.bind, valid]
    rw [← same]
    rfl

theorem DesiredDataSpec.resolve_again {desired : DesiredDataSpec}
    {r2Repository otherRepository : Option String} {data : DataSpec}
    (accepted : desired.resolve existingData r2Repository = .ok data) :
    desired.resolve (some data) otherRepository = .ok data := by
  cases existingData with
  | some existing =>
    obtain rfl := DesiredDataSpec.resolve_existing accepted
    cases desired <;> simpa only [DesiredDataSpec.resolve] using accepted
  | none =>
    cases desired with
    | localRestic repository =>
      injection accepted with same
      subst same
      simp [DesiredDataSpec.resolve]
    | r2Restic =>
      cases r2Repository with
      | none => cases accepted
      | some repository =>
        injection accepted with same
        subst same
        simp [DesiredDataSpec.resolve]

-- What a specification has once resolved to, it resolves to ever after.
theorem DesiredServerSpec.resolve_again {desired : DesiredServerSpec}
    {r2Repository otherRepository : Option String} {spec : ServerSpec}
    (accepted : desired.resolve existingData r2Repository = .ok spec) :
    desired.resolve (some spec.data) otherRepository = .ok spec := by
  obtain ⟨resolved, rest⟩ := DesiredServerSpec.resolve_iff.mp accepted
  exact DesiredServerSpec.resolve_iff.mpr ⟨DesiredDataSpec.resolve_again resolved, rest⟩

theorem DesiredServerSpec.resolve_existing {desired : DesiredServerSpec} {existing : DataSpec}
    {spec : ServerSpec}
    (accepted : desired.resolve (some existing) r2Repository = .ok spec) : spec.data = existing :=
  DesiredDataSpec.resolve_existing (DesiredServerSpec.resolve_iff.mp accepted).1

structure Server where
  id : ServerId
  name : ServerName
  generation : Nat
  desiredState : DesiredState
  spec : ServerSpec
  currentSnapshotId : Option String
  archivedAt : Option UnixTimestampMillis
  createdAt : UnixTimestampMillis
  updatedAt : UnixTimestampMillis
  deriving DecidableEq

namespace Server

open Outcome

def new (id : ServerId) (name : ServerName) (spec : ServerSpec) (now : UnixTimestampMillis) :
    Except ValidationError Server := do
  spec.validate
  return { id, name, generation := 1, desiredState := .stopped, spec, currentSnapshotId := none
           archivedAt := none, createdAt := now, updatedAt := now }

-- Every check `rehydrate` makes on the columns of a row, in the source's order.
def check (server : Server) : Except ValidationError Unit := do
  if server.generation = 0 then throw .zeroGeneration
  if server.updatedAt < server.createdAt then throw .invalidTimestampOrder
  if server.archivedAt.any fun archived =>
      archived < server.createdAt || server.updatedAt < archived then
    throw .invalidTimestampOrder
  if server.archivedAt.isSome && server.desiredState ≠ .stopped then
    throw .archivedServerMustBeStopped
  server.currentSnapshotId.forM fun snapshot =>
    requireText "current_snapshot_id" snapshot maxSnapshotIdChars
  server.spec.validate

def rehydrate (server : Server) : Except ValidationError Server :=
  server.check.map fun _ => server

theorem new_ok {id : ServerId} {name : ServerName} {spec : ServerSpec} {now : UnixTimestampMillis}
    {server : Server} (accepted : Server.new id name spec now = .ok server) :
    spec.validate = .ok () ∧ server =
      { id, name, generation := 1, desiredState := .stopped, spec, currentSnapshotId := none
        archivedAt := none, createdAt := now, updatedAt := now } := by
  unfold Server.new at accepted
  cases valid : spec.validate with
  | error error =>
    rw [valid] at accepted
    cases accepted
  | ok _ =>
    rw [valid] at accepted
    injection accepted with same
    exact ⟨rfl, same.symm⟩

theorem rehydrate_ok {server value : Server} (accepted : server.rehydrate = .ok value) :
    value = server := by
  cases checked : server.check with
  | error error => simp [rehydrate, checked, Except.map] at accepted
  | ok _ => simpa [rehydrate, checked, Except.map] using accepted.symm

structure Valid (server : Server) : Prop where
  generation : 0 < server.generation
  order : server.createdAt ≤ server.updatedAt
  archived : ∀ time, server.archivedAt = some time →
    server.createdAt ≤ time ∧ time ≤ server.updatedAt ∧ server.desiredState = .stopped
  snapshot : ∀ id, server.currentSnapshotId = some id →
    requireText "current_snapshot_id" id maxSnapshotIdChars = .ok ()
  spec : server.spec.validate = .ok ()

theorem check_iff {server : Server} : server.check = .ok () ↔ server.Valid := by
  have dated : (server.archivedAt.any fun archived =>
      archived < server.createdAt || server.updatedAt < archived) = false ∧
      (server.archivedAt.isSome && decide (server.desiredState ≠ .stopped)) = false ↔
      ∀ time, server.archivedAt = some time →
        server.createdAt ≤ time ∧ time ≤ server.updatedAt ∧ server.desiredState = .stopped := by
    cases server.archivedAt with
    | none => simp
    | some archived => simp [and_assoc]
  have named : (server.currentSnapshotId.forM fun snapshot =>
      requireText "current_snapshot_id" snapshot maxSnapshotIdChars) = .ok () ↔
      ∀ id, server.currentSnapshotId = some id →
        requireText "current_snapshot_id" id maxSnapshotIdChars = .ok () := by
    cases server.currentSnapshotId with
    | none => simp [pure, Except.pure]
    | some snapshot => simp
  rw [accepts_iff, check]
  simp only [accepts_throwIf, accepts_bind, Bool.not_eq_true]
  constructor
  · rintro ⟨positive, order, outside, running, _, text, accepted⟩
    exact ⟨Nat.pos_of_ne_zero positive, Nat.not_lt.mp order, dated.mp ⟨outside, running⟩, named.mp text,
      accepts_iff.mpr accepted⟩
  · intro valid
    obtain ⟨outside, running⟩ := dated.mpr valid.archived
    exact ⟨Nat.ne_of_gt valid.generation, Nat.not_lt.mpr valid.order, outside, running, (),
      named.mpr valid.snapshot, accepts_iff.mp valid.spec⟩

theorem Valid.rehydrate {server : Server} (valid : server.Valid) : server.rehydrate = .ok server := by
  simp [Server.rehydrate, check_iff.mpr valid, Except.map]

theorem valid_of_rehydrate {server value : Server} (accepted : server.rehydrate = .ok value) :
    server.Valid := by
  cases checked : server.check with
  | error error => simp [Server.rehydrate, checked, Except.map] at accepted
  | ok _ => exact check_iff.mp checked

def setDesiredState (server : Server) (desiredState : DesiredState) (now : UnixTimestampMillis) :
    Except ValidationError Bool × Server :=
  if server.archivedAt.isSome then (.error .serverArchived, server)
  else if server.desiredState = desiredState then (.ok false, server)
  else
    let server := { server with desiredState }
    match checkedAdd server.generation 1 with
    | none => (.error .generationOverflow, server)
    | some generation => (.ok true, { server with generation, updatedAt := max server.updatedAt now })

def updateSpec (server : Server) (spec : ServerSpec) (now : UnixTimestampMillis) :
    Except ValidationError Bool × Server :=
  match spec.validate with
  | .error error => (.error error, server)
  | .ok () =>
      if server.archivedAt.isSome then (.error .serverArchived, server)
      else if server.spec = spec then (.ok false, server)
      else if server.desiredState ≠ .stopped then (.error .serverMustBeStopped, server)
      else
        let server := { server with spec }
        match checkedAdd server.generation 1 with
        | none => (.error .generationOverflow, server)
        | some generation =>
            (.ok true, { server with generation, updatedAt := max server.updatedAt now })

def archive (server : Server) (now : UnixTimestampMillis) : Except ValidationError Bool × Server :=
  if server.archivedAt.isSome then (.ok false, server)
  else if server.desiredState ≠ .stopped then (.error .serverMustBeStopped, server)
  else
    match checkedAdd server.generation 1 with
    | none => (.error .generationOverflow, server)
    | some generation =>
        let updatedAt := max server.updatedAt now
        (.ok true, { server with generation, updatedAt, archivedAt := some updatedAt })

variable {server : Server} {now : UnixTimestampMillis} {changed : Bool}

theorem setDesiredState_ok {desired : DesiredState}
    (accepted : (server.setDesiredState desired now).1 = .ok changed) :
    changed = false ∧ (server.setDesiredState desired now).2 = server ∧ server.desiredState = desired ∨
      changed = true ∧ server.archivedAt = none ∧ server.desiredState ≠ desired ∧
        (server.setDesiredState desired now).2 =
        { server with
          desiredState := desired, generation := server.generation + 1
          updatedAt := max server.updatedAt now } := by
  unfold setDesiredState at accepted ⊢
  by_cases archived : server.archivedAt.isSome
  · simp [archived] at accepted
  by_cases same : server.desiredState = desired
  · simp only [archived, same, if_true] at accepted ⊢
    injection accepted with unchanged
    exact .inl ⟨unchanged.symm, rfl, trivial⟩
  · cases bumped : checkedAdd server.generation 1 with
    | none => simp [archived, same, bumped] at accepted
    | some generation =>
      simp only [archived, same, bumped, if_false] at accepted ⊢
      injection accepted with moved
      exact .inr ⟨moved.symm, by simpa using archived, same, by rw [checkedAdd_eq bumped]; rfl⟩

variable {spec : ServerSpec}

theorem updateSpec_checked (accepted : (server.updateSpec spec now).1 = .ok changed) :
    spec.validate = .ok () ∧ server.archivedAt = none ∧ (server.spec = spec → changed = false) := by
  unfold updateSpec at accepted
  cases valid : spec.validate with
  | error error => simp [valid] at accepted
  | ok _ =>
    by_cases archived : server.archivedAt.isSome
    · simp [valid, archived] at accepted
    · refine ⟨rfl, by simpa using archived, fun same => ?_⟩
      simpa [valid, archived, same, eq_comm] using accepted

theorem updateSpec_ok (accepted : (server.updateSpec spec now).1 = .ok changed) :
    changed = false ∧ (server.updateSpec spec now).2 = server ∧ server.spec = spec ∨
      changed = true ∧ server.archivedAt = none ∧ server.desiredState = .stopped ∧
        (server.updateSpec spec now).2 =
        { server with
          spec, generation := server.generation + 1, updatedAt := max server.updatedAt now } := by
  obtain ⟨valid, active, unchanged⟩ := updateSpec_checked accepted
  unfold updateSpec at accepted ⊢
  by_cases same : server.spec = spec
  · exact .inl ⟨unchanged same, by simp [valid, active, same], same⟩
  by_cases stopped : server.desiredState = .stopped
  · cases bumped : checkedAdd server.generation 1 with
    | none => simp [valid, active, same, stopped, bumped] at accepted
    | some generation =>
      simp only [valid, active, same, stopped, bumped, if_false, ne_eq, not_true] at accepted ⊢
      injection accepted with moved
      exact .inr ⟨moved.symm, trivial, trivial, by rw [checkedAdd_eq bumped]; rfl⟩
  · simp [valid, active, same, stopped] at accepted

theorem archive_ok (accepted : (server.archive now).1 = .ok changed) :
    changed = false ∧ (server.archive now).2 = server ∧ server.archivedAt.isSome ∨
      changed = true ∧ server.archivedAt = none ∧ server.desiredState = .stopped ∧
        (server.archive now).2 =
        { server with
          generation := server.generation + 1, updatedAt := max server.updatedAt now
          archivedAt := some (max server.updatedAt now) } := by
  unfold archive at accepted ⊢
  by_cases archived : server.archivedAt.isSome
  · simp only [archived, if_true] at accepted ⊢
    injection accepted with unchanged
    exact .inl ⟨unchanged.symm, trivial, trivial⟩
  by_cases stopped : server.desiredState = .stopped
  · cases bumped : checkedAdd server.generation 1 with
    | none => simp [archived, stopped, bumped] at accepted
    | some generation =>
      simp only [archived, stopped, bumped, if_false, ne_eq, not_true] at accepted ⊢
      injection accepted with moved
      exact .inr ⟨moved.symm, by simpa using archived, trivial, by rw [checkedAdd_eq bumped]; rfl⟩
  · simp [archived, stopped] at accepted

structure Atomic (server : Server) (outcome : Except ValidationError Bool × Server) : Prop where
  failed : ∀ error, outcome.1 = .error error → outcome.2 = server
  unchanged : outcome.1 = .ok false → outcome.2 = server
  changed : outcome.1 = .ok true → outcome.2.generation = server.generation + 1 ∧
    server.updatedAt ≤ outcome.2.updatedAt ∧ outcome.2.rehydrate = .ok outcome.2

theorem checkedAdd_none {generation : Nat} (within : generation ≤ maximumU64) :
    checkedAdd generation 1 = none ↔ generation = maximumU64 := by
  unfold checkedAdd
  split_ifs with room
  · simp only [false_iff]
    omega
  · simp only [true_iff]
    omega

theorem setDesiredState_advances {desired : DesiredState} (valid : server.Valid)
    (accepted : (server.setDesiredState desired now).1 = .ok true) :
    (server.setDesiredState desired now).2.generation = server.generation + 1 ∧
      server.updatedAt ≤ (server.setDesiredState desired now).2.updatedAt ∧
      (server.setDesiredState desired now).2.Valid := by
  rcases setDesiredState_ok accepted with ⟨different, -⟩ | ⟨-, unarchived, -, written⟩
  · cases different
  · rw [written]
    refine ⟨rfl, Nat.le_max_left _ _, ⟨Nat.succ_pos _, le_trans valid.order (Nat.le_max_left _ _), ?_,
      valid.snapshot, valid.spec⟩⟩
    intro time archived
    rw [unarchived] at archived
    cases archived

theorem updateSpec_advances (valid : server.Valid)
    (accepted : (server.updateSpec spec now).1 = .ok true) :
    (server.updateSpec spec now).2.generation = server.generation + 1 ∧
      server.updatedAt ≤ (server.updateSpec spec now).2.updatedAt ∧
      (server.updateSpec spec now).2.Valid := by
  have passes := (updateSpec_checked accepted).1
  rcases updateSpec_ok accepted with ⟨different, -⟩ | ⟨-, unarchived, -, written⟩
  · cases different
  · rw [written]
    refine ⟨rfl, Nat.le_max_left _ _, ⟨Nat.succ_pos _, le_trans valid.order (Nat.le_max_left _ _), ?_,
      valid.snapshot, passes⟩⟩
    intro time archived
    rw [unarchived] at archived
    cases archived

theorem archive_advances (valid : server.Valid) (accepted : (server.archive now).1 = .ok true) :
    (server.archive now).2.generation = server.generation + 1 ∧
      server.updatedAt ≤ (server.archive now).2.updatedAt ∧ (server.archive now).2.Valid := by
  rcases archive_ok accepted with ⟨different, -⟩ | ⟨-, -, stopped, written⟩
  · cases different
  · rw [written]
    refine ⟨rfl, Nat.le_max_left _ _, ⟨Nat.succ_pos _, le_trans valid.order (Nat.le_max_left _ _), ?_,
      valid.snapshot, valid.spec⟩⟩
    intro time archived
    obtain rfl := Option.some.inj archived
    exact ⟨le_trans valid.order (Nat.le_max_left _ _), le_refl _, stopped⟩

theorem setDesiredState_atomic {desired : DesiredState} (valid : server.Valid)
    (within : server.generation ≤ maximumU64) :
    server.Atomic (server.setDesiredState desired now) ↔
      (server.generation = maximumU64 → server.archivedAt.isSome ∨ server.desiredState = desired) := by
  constructor
  · intro atomic full
    by_contra neither
    obtain ⟨unarchived, differs⟩ := not_or.mp neither
    have overflow : server.setDesiredState desired now =
        (.error .generationOverflow, { server with desiredState := desired }) := by
      simp [setDesiredState, unarchived, differs, (checkedAdd_none within).mpr full]
    have same := atomic.failed .generationOverflow (by rw [overflow])
    rw [overflow] at same
    exact differs (congrArg Server.desiredState same).symm
  · intro room
    refine ⟨fun error refused => ?_, fun accepted => ?_, fun accepted => ?_⟩
    · unfold setDesiredState at refused ⊢
      by_cases archived : server.archivedAt.isSome
      · simp [archived]
      by_cases same : server.desiredState = desired
      · simp [archived, same]
      cases bumped : checkedAdd server.generation 1 with
      | none =>
        rcases room ((checkedAdd_none within).mp bumped) with gone | equal
        · exact absurd gone archived
        · exact absurd equal same
      | some generation => simp [archived, same, bumped] at refused
    · rcases setDesiredState_ok accepted with ⟨-, kept, -⟩ | ⟨different, -⟩
      · exact kept
      · cases different
    · obtain ⟨next, later, still⟩ := setDesiredState_advances valid accepted
      exact ⟨next, later, still.rehydrate⟩

theorem updateSpec_atomic (valid : server.Valid) (within : server.generation ≤ maximumU64) :
    server.Atomic (server.updateSpec spec now) ↔
      (server.generation = maximumU64 → spec.validate ≠ .ok () ∨ server.archivedAt.isSome ∨
        server.spec = spec ∨ server.desiredState ≠ .stopped) := by
  constructor
  · intro atomic full
    by_contra allowed
    simp only [not_or, not_not] at allowed
    obtain ⟨passes, unarchived, differs, stopped⟩ := allowed
    have overflow : server.updateSpec spec now = (.error .generationOverflow, { server with spec }) := by
      simp [updateSpec, passes, unarchived, differs, stopped, (checkedAdd_none within).mpr full]
    have same := atomic.failed .generationOverflow (by rw [overflow])
    rw [overflow] at same
    exact differs (congrArg Server.spec same).symm
  · intro room
    refine ⟨fun error refused => ?_, fun accepted => ?_, fun accepted => ?_⟩
    · unfold updateSpec at refused ⊢
      cases passes : spec.validate with
      | error error => rfl
      | ok _ =>
        by_cases archived : server.archivedAt.isSome
        · simp [archived]
        by_cases same : server.spec = spec
        · simp [archived, same]
        by_cases stopped : server.desiredState = .stopped
        · cases bumped : checkedAdd server.generation 1 with
          | none =>
            have gone := room ((checkedAdd_none within).mp bumped)
            simp [passes, archived, same, stopped] at gone
          | some generation => simp [passes, archived, same, stopped, bumped] at refused
        · simp [archived, same, stopped]
    · rcases updateSpec_ok accepted with ⟨-, kept, -⟩ | ⟨different, -⟩
      · exact kept
      · cases different
    · obtain ⟨next, later, still⟩ := updateSpec_advances valid accepted
      exact ⟨next, later, still.rehydrate⟩

theorem archive_atomic (valid : server.Valid) : server.Atomic (server.archive now) := by
  refine ⟨fun error refused => ?_, fun accepted => ?_, fun accepted => ?_⟩
  · unfold archive at refused ⊢
    by_cases archived : server.archivedAt.isSome
    · simp [archived]
    by_cases stopped : server.desiredState = .stopped
    · cases bumped : checkedAdd server.generation 1 with
      | none => simp [archived, stopped]
      | some generation => simp [archived, stopped, bumped] at refused
    · simp [archived, stopped]
  · rcases archive_ok accepted with ⟨-, kept, -⟩ | ⟨different, -⟩
    · exact kept
    · cases different
  · obtain ⟨next, later, still⟩ := archive_advances valid accepted
    exact ⟨next, later, still.rehydrate⟩

theorem mutators_are_atomic (server : Server) (accepted : server.rehydrate = .ok server)
    (within : server.generation ≤ maximumU64) (now : UnixTimestampMillis) :
    (∀ desired, server.Atomic (server.setDesiredState desired now) ↔
      (server.generation = maximumU64 → server.archivedAt.isSome ∨ server.desiredState = desired)) ∧
    (∀ spec, server.Atomic (server.updateSpec spec now) ↔
      (server.generation = maximumU64 → spec.validate ≠ .ok () ∨ server.archivedAt.isSome ∨
        server.spec = spec ∨ server.desiredState ≠ .stopped)) ∧
    server.Atomic (server.archive now) := by
  have valid := valid_of_rehydrate accepted
  exact ⟨fun _ => setDesiredState_atomic valid within, fun _ => updateSpec_atomic valid within,
    archive_atomic valid⟩

theorem world_valid : ServerName.isValid "world" = true := by decide

def sample (generation : Nat) : Server where
  id := ⟨1⟩
  name := ⟨"world", world_valid⟩
  generation := generation
  desiredState := .stopped
  spec :=
    { compute := .local
      process := { containerImage := "image", serverType := "VANILLA", version := "1.21", hostPort := 25565
                   stopTimeoutSeconds := 60, acceptEula := true, environment := Environment.empty }
      data := { backend := .localRestic, repository := "/srv/restic" } }
  currentSnapshotId := none
  archivedAt := none
  createdAt := 1
  updatedAt := 1

theorem mutators_are_atomic_at_first :
    (sample 1).Atomic ((sample 1).setDesiredState .running 2) :=
  ((mutators_are_atomic (sample 1) (by decide +kernel) (by decide) 2).1 .running).mpr fun full =>
    absurd full (by decide)

theorem last_generation_half_updated :
    (sample maximumU64).rehydrate = .ok (sample maximumU64) ∧
      ((sample maximumU64).setDesiredState .running 2).1 = .error .generationOverflow ∧
      ((sample maximumU64).setDesiredState .running 2).2.desiredState = .running ∧
      (sample maximumU64).desiredState = .stopped := by
  decide +kernel

end Server

end McServer.Domain
