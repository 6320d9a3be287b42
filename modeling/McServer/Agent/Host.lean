import McServer.Domain.Instance
import McServer.Library.Program

set_option autoImplicit false

namespace McServer.Agent

open Domain

structure InstanceIdentity where
  serverInstanceId : Uuid
  fencingToken : Nat
  deriving DecidableEq, Repr

structure RestoreDataParams where
  identity : InstanceIdentity
  serverId : Uuid
  repository : String
  sourceSnapshotId : Option String
  deriving DecidableEq

structure StartServerParams where
  identity : InstanceIdentity
  process : ProcessSpec
  deriving DecidableEq

structure StopServerParams where
  identity : InstanceIdentity
  stopTimeoutSeconds : UInt64
  deriving DecidableEq

structure SnapshotDataParams where
  identity : InstanceIdentity
  serverId : Uuid
  repository : String
  deriving DecidableEq

inductive Command where
  | inspect (identity : InstanceIdentity)
  | restoreData (params : RestoreDataParams)
  | startServer (params : StartServerParams)
  | stopServer (params : StopServerParams)
  | snapshotData (params : SnapshotDataParams)
  | cleanupInstance (identity : InstanceIdentity)
  | shutdown
  deriving DecidableEq

structure AgentInspectResult where
  dataPrepared : Bool
  processRunning : Bool
  lastSnapshotId : Option String
  deriving DecidableEq, Repr

inductive CommandResult where
  | inspected (result : AgentInspectResult)
  | changed (changed : Bool)
  | snapshot (snapshotId : String)
  | shutdown
  deriving DecidableEq, Repr

inductive ExecutorError where
  | io (detail : String)
  | unsupportedStateSchemaVersion (version : Nat)
  | utf8
  | commandTimeout (description : String)
  | commandFailed (description : String) (status : Option Int) (stderr : String)
  | staleInstance
  | unknownInstance
  | dataNotPrepared
  | processStillRunning
  | immutableInstanceConfigurationChanged
  | eulaNotAccepted
  | nonUtf8Path (path : String)
  | restoreMissingDataDirectory (path : String)
  | missingSnapshotId
  | unexpectedPodmanOutput (output : String)
  | serialization
  deriving DecidableEq, Repr

-- `{status:?}` of an exit code.
def debugStatus : Option Int → String
  | some code => s!"Some({code})"
  | none => "None"

def ExecutorError.message : ExecutorError → String
  | .io detail => s!"node operation I/O failed: {detail}"
  | .unsupportedStateSchemaVersion version => s!"node state schema version {version} is not supported"
  | .utf8 => "node command output was not UTF-8"
  | .commandTimeout description => s!"node command {description} timed out"
  | .commandFailed description status stderr =>
      s!"node command {description} failed with status {debugStatus status}: {stderr}"
  | .staleInstance => "node-agent command refers to another or stale server instance"
  | .unknownInstance => "node-agent has not been assigned a server instance"
  | .dataNotPrepared => "server data has not been prepared"
  | .processStillRunning => "Minecraft process is still running"
  | .immutableInstanceConfigurationChanged => "immutable server instance configuration changed"
  | .eulaNotAccepted => "Minecraft EULA acceptance was not provided"
  | .nonUtf8Path path => s!"path is not valid UTF-8: {path}"
  | .restoreMissingDataDirectory path =>
      s!"restic restore did not produce the expected data directory: {path}"
  | .missingSnapshotId => "restic backup output did not contain a snapshot id"
  | .unexpectedPodmanOutput output => s!"unexpected Podman output: {output}"
  | .serialization => "node state serialization failed"

structure InstanceState where
  serverInstanceId : Uuid
  fencingToken : Nat
  serverId : Uuid
  repository : String
  sourceSnapshotId : Option String
  dataPrepared : Bool
  lastSnapshotId : Option String
  deriving DecidableEq

def agentStateSchemaVersion : Nat := 1

structure AgentState where
  schemaVersion : Nat
  assigned : Option InstanceState
  deriving DecidableEq

def AgentState.default : AgentState := { schemaVersion := agentStateSchemaVersion, assigned := none }

structure Directory where
  content : String
  intact : Bool
  deriving DecidableEq, Repr

structure Container where
  running : Bool
  arguments : List String
  deriving DecidableEq

-- What a line of `restic backup --json` says, as far as the agent reads it.
structure ResticMessage where
  messageType : Option String
  snapshotId : Option String
  deriving DecidableEq, Repr

structure Host where
  state : Option AgentState
  data : Option Directory
  previous : Option Directory
  staging : Option (Option Directory)
  containers : Uuid → Option Container

def Host.fresh : Host :=
  { state := none, data := none, previous := none, staging := none, containers := fun _ => none }

def Host.withoutDirectory (host : Host) : Host := { Host.fresh with containers := host.containers }

def Host.isRunning (host : Host) (serverInstanceId : Uuid) : Bool :=
  (host.containers serverInstanceId).any Container.running

inductive Place where
  | data
  | staging
  | previous
  | restored
  deriving DecidableEq, Repr

def Host.exists (host : Host) : Place → Bool
  | .data => host.data.isSome
  | .staging => host.staging.isSome
  | .previous => host.previous.isSome
  | .restored => host.staging.any Option.isSome

def Host.remove (host : Host) : Place → Host
  | .data => { host with data := none }
  | .staging => { host with staging := none }
  | .previous => { host with previous := none }
  | .restored => { host with staging := host.staging.map fun _ => none }

def Directory.damage (directory : Directory) : Directory := { directory with intact := false }

def Host.damage (host : Host) : Place → Host
  | .data => { host with data := host.data.map Directory.damage }
  | .staging => { host with staging := host.staging.map (Option.map Directory.damage) }
  | .previous => { host with previous := host.previous.map Directory.damage }
  | .restored => { host with staging := host.staging.map (Option.map Directory.damage) }

inductive AgentOp where
  | readState
  | writeState (state : AgentState)
  | removeStateFile
  | stateFileExists
  | ensureStateDirectory
  | containerExists (id : Uuid)
  | containerRunning (id : Uuid)
  | removeContainer (id : Uuid)
  | createContainer (id : Uuid) (arguments : List String)
  | startContainer (id : Uuid)
  | stopContainer (id : Uuid) (timeout : UInt64)
  | resticConfig (repository : String)
  | resticInit (repository : String)
  | resticBackup (repository : String) (serverId serverInstanceId : Uuid)
  | resticRestore (repository snapshotId : String)
  | pathExists (place : Place)
  | removePath (place : Place)
  | removePaths (places : List Place)
  | movePath (source destination : Place)
  | createDirectory (place : Place)
  deriving DecidableEq

def AgentOp.Value : AgentOp → Type
  | .readState => Option AgentState
  | .stateFileExists => Bool
  | .containerExists _ => Bool
  | .containerRunning _ => Bool
  | .resticConfig _ => Bool
  | .resticInit _ => Bool
  | .resticBackup _ _ _ => List ResticMessage
  | .pathExists _ => Bool
  | _ => Unit

abbrev AgentOp.Res (op : AgentOp) : Type := Except ExecutorError op.Value

-- An operation may fail without or after its effect; a removal and a restore also halfway.
inductive Fault where
  | none
  | before
  | partway (removed : Nat)
  | after
  deriving DecidableEq, Repr

structure AgentChoice where
  fault : Fault
  error : ExecutorError
  messages : List ResticMessage
  succeeds : Bool

inductive AgentEvent where
  | containerStarted (serverInstanceId : Uuid)
  | backedUp (serverInstanceId : Uuid) (messages : List ResticMessage) (running : Bool)
  deriving DecidableEq

structure Node where
  host : Host
  repositories : String → Option (List (String × Directory))
  events : List AgentEvent

def announcedSnapshot (messages : List ResticMessage) : Option String :=
  (messages.find? fun message => message.messageType = some "summary").bind ResticMessage.snapshotId

namespace Node

def mapHost (node : Node) (change : Host → Host) : Node := { node with host := change node.host }

def setContainer (node : Node) (id : Uuid) (container : Option Container) : Node :=
  node.mapHost fun host => { host with containers := Function.update host.containers id container }

def start (node : Node) (id : Uuid) : Except ExecutorError Unit × Node :=
  match node.host.containers id with
  | none => (.error (.commandFailed "podman" (some 125) "no such container"), node)
  | some container =>
      let node := node.setContainer id (some { container with running := true })
      (.ok (), { node with events := .containerStarted id :: node.events })

def stop (node : Node) (id : Uuid) : Except ExecutorError Unit × Node :=
  match node.host.containers id with
  | none => (.error (.commandFailed "podman" (some 125) "no such container"), node)
  | some container => (.ok (), node.setContainer id (some { container with running := false }))

def backup (node : Node) (repository : String) (id : Uuid) (messages : List ResticMessage) :
    Except ExecutorError (List ResticMessage) × Node :=
  match node.host.data, node.repositories repository with
  | some data, some snapshots =>
      let stored := match announcedSnapshot messages with
        | some snapshot => (snapshot, data) :: snapshots
        | none => snapshots
      (.ok messages, { node with
          repositories := Function.update node.repositories repository (some stored)
          events := .backedUp id messages (node.host.isRunning id) :: node.events })
  | _, _ => (.error (.commandFailed "restic" (some 1) "cannot back up"), node)

def restore (node : Node) (repository snapshotId : String) : Except ExecutorError Unit × Node :=
  match (node.repositories repository).bind fun snapshots => snapshots.lookup snapshotId with
  | some directory => (.ok (), node.mapHost fun host => { host with staging := some (some directory) })
  | none => (.error (.commandFailed "restic" (some 1) "no matching snapshot"), node)

def move (node : Node) (source destination : Place) : Except ExecutorError Unit × Node :=
  let moved := match source with
    | .data => node.host.data
    | .previous => node.host.previous
    | .restored | .staging => node.host.staging.join
  match moved with
  | none => (.error (.io "not found"), node)
  | some directory =>
      let host := node.host.remove source
      let host := match destination with
        | .data => { host with data := some directory }
        | .previous => { host with previous := some directory }
        | .restored | .staging => { host with staging := some (some directory) }
      (.ok (), { node with host })

def create (node : Node) (place : Place) : Node :=
  if node.host.exists place then node
  else
    let empty : Directory := { content := "", intact := true }
    node.mapHost fun host =>
      match place with
      | .data => { host with data := some empty }
      | .previous => { host with previous := some empty }
      | .staging => { host with staging := some none }
      | .restored => { host with staging := some (some empty) }

def apply (op : AgentOp) (choice : AgentChoice) (node : Node) : op.Res × Node :=
  match op with
  | .readState => (.ok node.host.state, node)
  | .writeState state => (.ok (), node.mapHost fun host => { host with state := some state })
  | .removeStateFile => (.ok (), node.mapHost fun host => { host with state := none })
  | .stateFileExists => (.ok node.host.state.isSome, node)
  | .ensureStateDirectory => (.ok (), node)
  | .containerExists id => (.ok (node.host.containers id).isSome, node)
  | .containerRunning id =>
      match node.host.containers id with
      | some container => (.ok container.running, node)
      | none => (.error (.commandFailed "podman" (some 125) "no such container"), node)
  | .removeContainer id => (.ok (), node.setContainer id none)
  | .createContainer id arguments => (.ok (), node.setContainer id (some { running := false, arguments }))
  | .startContainer id => node.start id
  | .stopContainer id _ => node.stop id
  | .resticConfig repository => (.ok (choice.succeeds && (node.repositories repository).isSome), node)
  | .resticInit repository =>
      if choice.succeeds && (node.repositories repository).isNone then
        (.ok true, { node with repositories := Function.update node.repositories repository (some []) })
      else (.ok false, node)
  | .resticBackup repository _ id => node.backup repository id choice.messages
  | .resticRestore repository snapshotId => node.restore repository snapshotId
  | .pathExists place => (.ok (node.host.exists place), node)
  | .removePath place => (.ok (), node.mapHost fun host => host.remove place)
  | .removePaths places => (.ok (), node.mapHost fun host => places.foldl Host.remove host)
  | .movePath source destination => node.move source destination
  | .createDirectory place => (.ok (), node.create place)

def cutShort (op : AgentOp) (removed : Nat) (host : Host) : Host :=
  match op with
  | .resticRestore _ _ => { host with staging := some (some { content := "", intact := false }) }
  | .removePath place => host.damage place
  | .removePaths places =>
      let host := (places.take removed).foldl Host.remove host
      match places[removed]? with
      | some place => host.damage place
      | none => host
  | _ => host

def exec (op : AgentOp) (choice : AgentChoice) (node : Node) : op.Res × Node :=
  match choice.fault with
  | .none => node.apply op choice
  | .before => (.error choice.error, node)
  | .partway removed => (.error choice.error, node.mapHost (cutShort op removed))
  | .after => (.error choice.error, (node.apply op choice).2)

end Node

end McServer.Agent
