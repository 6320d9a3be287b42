import McServer.Agent.Host

set_option autoImplicit false

namespace McServer.Agent

open Domain Interleaving

inductive DataAccessMode where
  | host
  | podmanUserNamespace
  deriving DecidableEq, Repr

structure AgentConfig where
  dataAccessMode : DataAccessMode
  stateDirectory : String
  localScope : String
  computeInstanceId : Uuid

abbrev AgentM (A : Type) := Try AgentOp AgentOp.Res ExecutorError A

def ask (op : AgentOp) : AgentM op.Value := Prog.perform op

def maxSnapshotIdChars : Nat := 256

def validateIdentity (state : InstanceState) (identity : InstanceIdentity) :
    Except ExecutorError Unit :=
  if state.serverInstanceId ≠ identity.serverInstanceId ∨
      state.fencingToken ≠ identity.fencingToken then .error .staleInstance
  else .ok ()

-- `agent.inspect` and `instance.cleanup` also serve an agent that has no instance yet.
def validateAssigned (state : AgentState) (identity : InstanceIdentity) : Except ExecutorError Unit :=
  match state.assigned with
  | some assigned => validateIdentity assigned identity
  | none => .ok ()

def ensureInstanceState (state : AgentState) (identity : InstanceIdentity) (serverId : Uuid)
    (repository : String) (sourceSnapshotId : Option String) : Except ExecutorError InstanceState :=
  let assigned := state.assigned.getD
    { serverInstanceId := identity.serverInstanceId, fencingToken := identity.fencingToken
      serverId, repository, sourceSnapshotId, dataPrepared := false, lastSnapshotId := none }
  match validateIdentity assigned identity with
  | .error error => .error error
  | .ok () =>
      if assigned.serverId ≠ serverId ∨ assigned.repository ≠ repository ∨
          assigned.sourceSnapshotId ≠ sourceSnapshotId then
        .error .immutableInstanceConfigurationChanged
      else .ok assigned

def parseBackupSnapshotId (messages : List ResticMessage) : Except ExecutorError String :=
  let usable := messages.findSome? fun message =>
    if message.messageType = some "summary" then
      message.snapshotId.filter fun id =>
        !Text.isBlank id && Text.charCount id ≤ maxSnapshotIdChars && !Text.containsNul id
    else none
  match usable with
  | some snapshotId => .ok snapshotId
  | none => .error .missingSnapshotId

def containerName (serverInstanceId : Uuid) : String := s!"mcserver-{serverInstanceId.hyphenated}"

def createArguments (config : AgentConfig) (serverInstanceId serverId : Uuid) (process : ProcessSpec) :
    List String :=
  ["create", "--replace", "--name", containerName serverInstanceId,
    "--label", "io.mcserver.managed=true",
    "--label", s!"io.mcserver.local-scope={config.localScope}",
    "--label", s!"io.mcserver.server-id={serverId.hyphenated}",
    "--label", s!"io.mcserver.server-instance-id={serverInstanceId.hyphenated}",
    "--label", s!"io.mcserver.compute-instance-id={config.computeInstanceId.hyphenated}",
    "--publish", s!"{process.hostPort}:25565/tcp",
    "--volume", s!"{config.stateDirectory}/data:/data:Z",
    "--env", "EULA=TRUE",
    "--env", s!"TYPE={process.serverType}",
    "--env", s!"VERSION={process.version}",
    "--env", "SKIP_SERVER_PROPERTIES=TRUE",
    "--restart", "no"] ++
    (process.environment.entries.flatMap fun (key, value) => ["--env", s!"{key}={value}"]) ++
    ["--", process.containerImage]

namespace AgentExecutor

def loadState : AgentM AgentState := do
  match ← ask .readState with
  | none => return .default
  | some state =>
      if state.schemaVersion ≠ agentStateSchemaVersion then
        Try.fail (.unsupportedStateSchemaVersion state.schemaVersion)
      else return state

def storeState (state : AgentState) : AgentM Unit := do
  ask .ensureStateDirectory
  ask (.writeState state)

def containerExists (id : Uuid) : AgentM Bool := ask (.containerExists id)

def containerRunning (id : Uuid) : AgentM Bool := do
  if ← containerExists id then ask (.containerRunning id) else return false

def removeContainer (id : Uuid) : AgentM Unit := ask (.removeContainer id)

def createContainer (config : AgentConfig) (serverInstanceId serverId : Uuid) (process : ProcessSpec) :
    AgentM Unit :=
  if !process.acceptEula then Try.fail .eulaNotAccepted
  else ask (.createContainer serverInstanceId (createArguments config serverInstanceId serverId process))

def removeEach : List Place → AgentM Unit
  | [] => return ()
  | place :: rest => do
      ask (.removePath place)
      removeEach rest

def removePaths (config : AgentConfig) (places : List Place) : AgentM Unit :=
  match config.dataAccessMode with
  | .podmanUserNamespace => ask (.removePaths places)
  | .host => removeEach places

def movePath (source destination : Place) : AgentM Unit := ask (.movePath source destination)

def pathExists (place : Place) : AgentM Bool := ask (.pathExists place)

def resticConfig (repository : String) : AgentM Bool := ask (.resticConfig repository)

def resticInit (repository : String) : AgentM Bool := ask (.resticInit repository)

def ensureResticRepository (repository : String) : AgentM Unit := do
  if ← resticConfig repository then return ()
  if ← resticInit repository then return ()
  if ← resticConfig repository then return ()
  Try.fail (.commandFailed "restic init" (some 1) "")

-- After a failed swap the agent puts the previous data back if it can; its errors are dropped.
def recoverSwap (error : ExecutorError) : AgentM Unit :=
  Prog.bind (pathExists .previous) fun
    | .ok true =>
        Prog.bind (pathExists .data) fun
          | .ok false => Prog.bind (movePath .previous .data) fun _ => Try.fail error
          | _ => Try.fail error
    | _ => Try.fail error

-- Recover an interrupted directory swap before discarding stale staging data.
def recoverInterruptedSwap : AgentM Unit := do
  if ← pathExists .data then return ()
  if ← pathExists .previous then movePath .previous .data

def setDataAside : AgentM Unit := do
  if ← pathExists .data then movePath .data .previous

def swapIn (config : AgentConfig) : AgentM Unit :=
  Prog.bind (movePath .restored .data) fun
    | .error error => recoverSwap error
    | .ok () => removePaths config [.previous, .staging]

def restoreSnapshot (config : AgentConfig) (repository snapshotId : String) : AgentM Unit := do
  recoverInterruptedSwap
  removePaths config [.staging, .previous]
  ask (.createDirectory .staging)
  ask (.resticRestore repository snapshotId)
  let restored ← pathExists .restored
  Try.failIf (!restored) (.restoreMissingDataDirectory s!"{config.stateDirectory}/restore-staging/data")
  setDataAside
  swapIn config

def inspect (identity : InstanceIdentity) : AgentM AgentInspectResult := do
  let state ← loadState
  Try.ofExcept (validateAssigned state identity)
  let processRunning ← containerRunning identity.serverInstanceId
  return { dataPrepared := state.assigned.any InstanceState.dataPrepared
           processRunning
           lastSnapshotId := state.assigned.bind InstanceState.lastSnapshotId }

def prepareData (config : AgentConfig) (params : RestoreDataParams) : AgentM Unit :=
  match params.sourceSnapshotId with
  | some snapshotId => restoreSnapshot config params.repository snapshotId
  | none => do
      removePaths config [.data]
      ask (.createDirectory .data)

def restoreData (config : AgentConfig) (params : RestoreDataParams) : AgentM Bool := do
  let state ← loadState
  let assigned ← Try.ofExcept (ensureInstanceState state params.identity params.serverId
    params.repository params.sourceSnapshotId)
  if assigned.dataPrepared then return false
  ask .ensureStateDirectory
  ensureResticRepository params.repository
  prepareData config params
  storeState { state with assigned := some { assigned with dataPrepared := true } }
  return true

def startServer (config : AgentConfig) (params : StartServerParams) : AgentM Bool := do
  let state ← loadState
  match state.assigned with
  | none => Try.fail .dataNotPrepared
  | some assigned =>
      Try.ofExcept (validateIdentity assigned params.identity)
      Try.failIf (!assigned.dataPrepared) .dataNotPrepared
      if ← containerRunning params.identity.serverInstanceId then return false
      removeContainer params.identity.serverInstanceId
      createContainer config params.identity.serverInstanceId assigned.serverId params.process
      ask (.startContainer params.identity.serverInstanceId)
      return true

def stopServer (params : StopServerParams) : AgentM Bool := do
  let state ← loadState
  match state.assigned with
  | none => Try.fail .unknownInstance
  | some assigned =>
      Try.ofExcept (validateIdentity assigned params.identity)
      if !(← containerRunning params.identity.serverInstanceId) then return false
      ask (.stopContainer params.identity.serverInstanceId params.stopTimeoutSeconds)
      return true

def snapshotData (params : SnapshotDataParams) : AgentM String := do
  let state ← loadState
  match state.assigned with
  | none => Try.fail .unknownInstance
  | some assigned =>
      Try.ofExcept (validateIdentity assigned params.identity)
      Try.failIf (assigned.serverId ≠ params.serverId ∨ assigned.repository ≠ params.repository)
        .immutableInstanceConfigurationChanged
      let running ← containerRunning params.identity.serverInstanceId
      Try.failIf running .processStillRunning
      ensureResticRepository params.repository
      let messages ← ask (.resticBackup params.repository params.serverId
        params.identity.serverInstanceId)
      let snapshotId ← Try.ofExcept (parseBackupSnapshotId messages)
      storeState { state with assigned := some { assigned with lastSnapshotId := some snapshotId } }
      return snapshotId

def anyPathExists : List Place → AgentM Bool
  | [] => ask .stateFileExists
  | place :: rest => do
      if ← pathExists place then return true
      anyPathExists rest

def instanceStorageExists : AgentM Bool := anyPathExists [.data, .staging, .previous]

def removeInstanceStorage (config : AgentConfig) : AgentM Unit := do
  removePaths config [.data, .staging, .previous]
  ask .removeStateFile

def cleanupInstance (config : AgentConfig) (identity : InstanceIdentity) : AgentM Bool := do
  let state ← loadState
  Try.ofExcept (validateAssigned state identity)
  let containerExisted ← containerExists identity.serverInstanceId
  removeContainer identity.serverInstanceId
  let storageExisted ← instanceStorageExists
  removeInstanceStorage config
  return containerExisted || storageExisted

def dispatchMethod (config : AgentConfig) : Command → AgentM CommandResult
  | .inspect identity => do return .inspected (← inspect identity)
  | .restoreData params => do return .changed (← restoreData config params)
  | .startServer params => do return .changed (← startServer config params)
  | .stopServer params => do return .changed (← stopServer params)
  | .snapshotData params => do return .snapshot (← snapshotData params)
  | .cleanupInstance identity => do return .changed (← cleanupInstance config identity)
  | .shutdown => return .shutdown

end AgentExecutor

end McServer.Agent
