import McServer.ControlPlane.Akamai

set_option autoImplicit false

namespace McServer.ControlPlane

open Domain Store Agent Interleaving

inductive LocalComputeError where
  | repository (source : RepositoryError)
  | machine (source : LocalError)
  | unsupportedRuntimeStateSchemaVersion (version : Nat)
  | timestamp (source : TimestampError)
  | wrongProvider
  | createConflict
  | missingAfterUpdate
  | processDidNotExit (processId : Nat)
  deriving DecidableEq

def LocalComputeError.message : LocalComputeError → String
  | .repository source => s!"local compute persistence failed: {source.message}"
  | .machine source => source.message
  | .unsupportedRuntimeStateSchemaVersion version =>
      s!"unsupported local runtime metadata schema version {version}"
  | .timestamp source => s!"local compute timestamp generation failed: {source.message}"
  | .wrongProvider => "local compute provider used for a non-local allocation"
  | .createConflict => "local compute instance creation conflicted"
  | .missingAfterUpdate => "local compute instance disappeared after update"
  | .processDidNotExit processId => s!"process {processId} did not exit after forced termination"

def localRuntimeStateSchemaVersion : Nat := 1

structure LocalManager where
  localScope : String
  processStopTimeoutMillis : Nat

namespace LocalManager

variable (manager : LocalManager)

def ask (op : LocalOp) : Flow LocalComputeError op.Value :=
  Try.raising .machine (Prog.perform (Op.machine op))

def loadRuntimeState (compute : ComputeInstanceId) : Flow LocalComputeError (Option LocalRuntimeState) := do
  let stored : Option LocalRuntimeState ← ask (.loadRuntimeState compute)
  match stored with
  | none => return none
  | some state =>
      if state.schemaVersion ≠ localRuntimeStateSchemaVersion then
        Try.fail (.unsupportedRuntimeStateSchemaVersion state.schemaVersion)
      else return some state

def readProcessState (processId : Nat) : Flow LocalComputeError (Option LinuxProcessState) :=
  ask (.readProcessState processId)

def readBootId : Flow LocalComputeError String := ask .readBootId

def runtimeProcessMatches (state : LocalRuntimeState) : Flow LocalComputeError Bool := do
  let bootId ← readBootId
  if bootId ≠ state.linuxBootId then return false
  match ← readProcessState state.processId with
  | none => return false
  | some current =>
      return current.state != 'Z' && current.state != 'X' && current.state != 'x' &&
        current.startTimeTicks == state.linuxProcessStartTimeTicks

def belongsTo (state : LocalRuntimeState) (compute : ComputeInstanceId) : Bool :=
  state.computeInstanceId = compute.uuid && state.localScope = manager.localScope

def deadlinePassed : Flow LocalComputeError Bool := ask .deadlinePassed

-- Look at the process until it is gone or the deadline has passed. Every turn sleeps, so the
-- deadline bounds their number.
def pollUntilGone (state : LocalRuntimeState) : Nat → Flow LocalComputeError Bool
  | 0 => return false
  | turns + 1 => do
      if ← deadlinePassed then return false
      if !(← runtimeProcessMatches state) then return true
      pollUntilGone state turns

def waitForUntrackedProcessExit (state : LocalRuntimeState) : Flow LocalComputeError Unit := do
  if !(← runtimeProcessMatches state) then return ()
  ask (.signal state.processId "TERM")
  if ← pollUntilGone state (manager.processStopTimeoutMillis / 100 + 1) then return ()
  ask (.signal state.processId "KILL")
  if ← pollUntilGone state 40 then return ()
  Try.fail (.processDidNotExit state.processId)

def processIsRunning (compute : ComputeInstance) : Flow LocalComputeError Bool := do
  let child : Option Bool ← ask (.tryWaitChild compute.id)
  match child with
  | some running => return running
  | none =>
      match compute.processId with
      | none => return false
      | some processId =>
          match ← loadRuntimeState compute.id with
          | none => return false
          | some state =>
              if state.processId = processId && manager.belongsTo state compute.id then
                runtimeProcessMatches state
              else return false

-- The child is killed; failing to do so is only logged.
def terminateSpawnedChild (processId : Nat) (error : LocalComputeError) {A : Type} :
    Flow LocalComputeError A :=
  Prog.bind (ask (.killChild processId)) fun _ => Try.fail error

def captureRuntimeState (processId : Nat) (compute : ComputeInstanceId) :
    Flow LocalComputeError LocalRuntimeState := do
  let bootId ← readBootId
  match ← readProcessState processId with
  | none => Try.fail (.machine (.io "No such file or directory"))
  | some process =>
      return { schemaVersion := localRuntimeStateSchemaVersion, computeInstanceId := compute.uuid
               localScope := manager.localScope, processId, linuxBootId := bootId
               linuxProcessStartTimeTicks := process.startTimeTicks }

def spawnAgent (compute : ComputeInstance) : Flow LocalComputeError Nat := do
  ask (.createStateDirectory compute.id)
  let processId : Nat ← ask (.spawnAgent compute.id compute.connectionToken)
  Prog.bind (manager.captureRuntimeState processId compute.id) fun
    | .error error => terminateSpawnedChild processId error
    | .ok state =>
        Prog.bind (ask (.storeRuntimeState compute.id state)) fun
          | .error error => terminateSpawnedChild processId error
          | .ok _ => Try.ofExcept (.ok processId)

def recordSpawned (compute : ComputeInstance) (processId : Nat) : Flow LocalComputeError Unit := do
  let spawnedAt ← clock .timestamp
  Prog.bind (db LocalComputeError.repository (.recordProcessId compute.id processId spawnedAt)) fun
    | .error error => terminateSpawnedChild processId error
    | .ok false => terminateSpawnedChild processId .missingAfterUpdate
    | .ok true => ask (.insertChild compute.id processId)

def obtainCompute (found : ServerInstance) (now : UnixTimestampMillis) :
    Flow LocalComputeError (ComputeInstance × Bool) := do
  let existing : Option ComputeInstance ← db .repository (.getActiveCompute found.id)
  match existing with
  | some compute =>
      if compute.provider = .localProcess then return (compute, false) else Try.fail .wrongProvider
  | none =>
      let token ← newConnectionToken
      let created ← createForInstance .repository found.id .localProcess token none now
      match created with
      | some compute => return (compute, true)
      | none => Try.fail .createConflict

def ensureProcess (compute : ComputeInstance) : Flow LocalComputeError Bool := do
  if ← manager.processIsRunning compute then return false
  let processId ← manager.spawnAgent compute
  recordSpawned compute processId
  return true

def ensureForInstance (found : ServerInstance) (now : UnixTimestampMillis) :
    Flow LocalComputeError (ComputeInstance × Bool) := do
  let (compute, created) ← obtainCompute found now
  let spawned ← manager.ensureProcess compute
  let refreshed : Option ComputeInstance ← db .repository (.getCompute compute.id)
  match refreshed with
  | some compute => return (compute, created || spawned)
  | none => Try.fail .missingAfterUpdate

def waitForExit (compute : ComputeInstance) : Flow LocalComputeError Unit := do
  let child : Option Nat ← ask (.takeChild compute.id)
  match child, compute.processId with
  | some processId, _ => ask (.waitChild processId)
  | none, some processId =>
      match ← loadRuntimeState compute.id with
      | none => return ()
      | some state =>
          if state.processId = processId && manager.belongsTo state compute.id then
            manager.waitForUntrackedProcessExit state
          else return ()
  | none, none => return ()

def delete (compute : ComputeInstance) : Flow LocalComputeError Bool := do
  let requestedAt ← clock .timestamp
  let _ : Bool ← db .repository (.requestShutdown compute.id requestedAt)
  AkamaiManager.requestNodeShutdown compute.id
  manager.waitForExit compute
  ask (.removeStateDirectory compute.id)
  let deletedAt ← clock .timestamp
  db .repository (.terminateCompute compute.id .deleted none deletedAt)

def belongsToActiveRuntime (active : List (ComputeInstanceId × ServerInstanceId))
    (listing : ContainerListing) : Bool :=
  !listing.hasExtraFields &&
    (listing.computeLabel.bind fun compute => active.lookup compute).any fun expected =>
      listing.instanceLabel = some expected

def reapContainers (active : List (ComputeInstanceId × ServerInstanceId)) :
    List ContainerListing → Flow LocalComputeError Unit
  | [] => return ()
  | listing :: rest => do
      if !listing.name.toList.isEmpty && !belongsToActiveRuntime active listing then
        ask (.removeContainer listing.name)
      reapContainers active rest

def stopProcessFromRuntimeState (compute : ComputeInstanceId) : Flow LocalComputeError Unit := do
  match ← loadRuntimeState compute with
  | none => return ()
  | some state =>
      if !manager.belongsTo state compute then return ()
      if !(← runtimeProcessMatches state) then return ()
      manager.waitForUntrackedProcessExit state

def reapDirectories (active : List (ComputeInstanceId × ServerInstanceId)) :
    List ComputeInstanceId → Flow LocalComputeError Unit
  | [] => return ()
  | compute :: rest => do
      if (active.lookup compute).isNone then
        manager.stopProcessFromRuntimeState compute
        ask (.removeStateDirectory compute)
      reapDirectories active rest

def reapOrphans (active : List (ComputeInstanceId × ServerInstanceId)) : Flow LocalComputeError Unit := do
  let containers : List ContainerListing ← ask .listContainers
  reapContainers active containers
  let directories : List ComputeInstanceId ← ask .listStateDirectories
  manager.reapDirectories active directories

end LocalManager

end McServer.ControlPlane
