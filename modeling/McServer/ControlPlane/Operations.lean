import McServer.ControlPlane.Provider
import McServer.Agent.Executor

set_option autoImplicit false

namespace McServer.ControlPlane

open Domain Store Agent Interleaving

structure LinuxProcessState where
  state : Char
  startTimeTicks : Nat
  deriving DecidableEq, Repr

structure LocalRuntimeState where
  schemaVersion : Nat
  computeInstanceId : Uuid
  localScope : String
  processId : Nat
  linuxBootId : String
  linuxProcessStartTimeTicks : Nat
  deriving DecidableEq

structure LocalMachine where
  bootId : String
  processes : Nat → Option LinuxProcessState
  runtimeStates : ComputeInstanceId → Option LocalRuntimeState
  -- The computes whose agents and containers run, or ran, on this machine.
  computes : List ComputeInstanceId
  -- The state directories below the node-agent root.
  directories : List ComputeInstanceId
  -- Child handles, held in the memory of the control plane.
  children : ComputeInstanceId → Option Nat

-- One line of `podman ps`: the name and the two ownership labels.
structure ContainerListing where
  name : String
  instanceLabel : Option ServerInstanceId
  computeLabel : Option ComputeInstanceId
  hasExtraFields : Bool
  deriving DecidableEq

inductive LocalOp where
  | tryWaitChild (compute : ComputeInstanceId)
  | takeChild (compute : ComputeInstanceId)
  | insertChild (compute : ComputeInstanceId) (processId : Nat)
  | waitChild (processId : Nat)
  | killChild (processId : Nat)
  | loadRuntimeState (compute : ComputeInstanceId)
  | storeRuntimeState (compute : ComputeInstanceId) (state : LocalRuntimeState)
  | readBootId
  | readProcessState (processId : Nat)
  | signal (processId : Nat) (name : String)
  | deadlinePassed
  | createStateDirectory (compute : ComputeInstanceId)
  | spawnAgent (compute : ComputeInstanceId) (connectionToken : String)
  | removeStateDirectory (compute : ComputeInstanceId)
  | listContainers
  | removeContainer (name : String)
  | listStateDirectories
  deriving DecidableEq

def LocalOp.Value : LocalOp → Type
  | .tryWaitChild _ => Option Bool
  | .takeChild _ => Option Nat
  | .loadRuntimeState _ => Option LocalRuntimeState
  | .readBootId => String
  | .readProcessState _ => Option LinuxProcessState
  | .deadlinePassed => Bool
  | .spawnAgent _ _ => Nat
  | .listContainers => List ContainerListing
  | .listStateDirectories => List ComputeInstanceId
  | _ => Unit

inductive AgentCallError where
  | notConnected
  | disconnected
  | timeout
  | remote (code : Int) (message : String)
  | serialization
  | protocol (detail : String)
  | io
  deriving DecidableEq, Repr

def AgentCallError.message : AgentCallError → String
  | .notConnected => "node agent is not connected"
  | .disconnected => "node agent disconnected"
  | .timeout => "node agent command timed out"
  | .remote code message => s!"node agent rejected the command: {code}: {message}"
  | .serialization => "node agent protocol serialization failed"
  | .protocol detail => s!"node agent protocol violation: {detail}"
  | .io => "node agent transport failed"

-- `session_unusable`
def AgentCallError.endsSession : AgentCallError → Bool
  | .disconnected | .io | .timeout | .protocol _ => true
  | _ => false

structure Session where
  connection : Nat
  usable : Bool
  deriving DecidableEq, Repr

structure Exchange where
  tag : Nat
  command : Command
  deriving DecidableEq

structure Link where
  registered : Option Session
  -- The newest connection of the agent that was ever registered.
  live : Nat
  queue : List Exchange
  answers : List (Exchange × Except AgentCallError CommandResult)

def Link.initial : Link := { registered := none, live := 0, queue := [], answers := [] }

inductive LinkOp where
  | accept
  | register (compute : ComputeInstanceId) (connection : Nat)
  | endSession (compute : ComputeInstanceId) (connection : Nat)
  | unregister (compute : ComputeInstanceId) (connection : Nat)
  | isConnected (compute : ComputeInstanceId)
  | send (compute : ComputeInstanceId) (command : Command)
  | await (compute : ComputeInstanceId) (exchange : Exchange)
  deriving DecidableEq

def LinkOp.Value : LinkOp → Type
  | .accept => Nat
  | .isConnected _ => Bool
  | .send _ _ => Except AgentCallError Nat
  | .await _ _ => Except AgentCallError CommandResult
  | _ => Unit

inductive DbOp where
  | createServer (server : Server)
  | getServer (id : ServerId)
  | getServerByName (name : ServerName)
  | hasActiveInstance (id : ServerId)
  | updateDesiredState (server : Server) (previousGeneration : Nat)
  | updateSpec (server : Server) (previousGeneration : Nat)
  | archiveServer (server : Server) (previousGeneration : Nat)
  | insertInstance (server : ServerId) (id : ServerInstanceId) (now : UnixTimestampMillis)
  | getInstance (id : ServerInstanceId)
  | getActiveInstance (server : ServerId)
  | requestStop (id : ServerInstanceId) (now : UnixTimestampMillis)
  | markDataPrepared (id : ServerInstanceId) (now : UnixTimestampMillis)
  | observeProcess (id : ServerInstanceId) (running : Bool) (now : UnixTimestampMillis)
  | recordError (id : ServerInstanceId) (message : String) (now : UnixTimestampMillis)
  | completeInstance (id : ServerInstanceId) (result : TerminalResult) (now : UnixTimestampMillis)
  | commitSnapshot (id : ServerInstanceId) (fencingToken : Nat) (snapshotId : String)
      (now : UnixTimestampMillis)
  | insertCompute (id : ComputeInstanceId) (server_instance : ServerInstanceId)
      (provider : ComputeProvider) (connectionToken : String) (enrollmentToken : Option String)
      (now : UnixTimestampMillis)
  | getCompute (id : ComputeInstanceId)
  | getActiveCompute (id : ServerInstanceId)
  | listActiveLocalOwnership
  | listActiveAkamai
  | recordProcessId (id : ComputeInstanceId) (processId : Nat) (now : UnixTimestampMillis)
  | recordProviderInstance (id : ComputeInstanceId) (providerInstanceId : String)
      (publicIpv4 : Option String) (now : UnixTimestampMillis)
  | getAgentEnrollment (id : ComputeInstanceId) (enrollmentToken : String)
  | recordAgentCertificate (id : ComputeInstanceId) (enrollmentToken : String)
      (certificate : AgentCertificateRecord)
  | authenticateAgent (id : ComputeInstanceId) (provider : ComputeProvider) (token : String)
      (certificateDer : Option (List UInt8)) (now : UnixTimestampMillis)
  | requestShutdown (id : ComputeInstanceId) (now : UnixTimestampMillis)
  | terminateCompute (id : ComputeInstanceId) (result : ComputeTerminalResult)
      (failureMessage : Option String) (now : UnixTimestampMillis)
  deriving DecidableEq

def DbOp.Value : DbOp → Type
  | .createServer _ => Unit
  | .getServer _ => Option Server
  | .getServerByName _ => Option Server
  | .insertInstance _ _ _ => Bool
  | .getInstance _ => Option ServerInstance
  | .getActiveInstance _ => Option ServerInstance
  | .recordError _ _ _ => Unit
  | .getCompute _ => Option ComputeInstance
  | .getActiveCompute _ => Option ComputeInstance
  | .listActiveLocalOwnership => List (ComputeInstanceId × ServerInstanceId)
  | .listActiveAkamai => List ComputeInstance
  | .getAgentEnrollment _ _ => Option AgentEnrollment
  | .authenticateAgent _ _ _ _ _ => AgentAuthentication
  | _ => Bool

def DbOp.query (op : DbOp) : Query op.Value :=
  match op with
  | .createServer server => ServerRepository.create server
  | .getServer id => ServerRepository.get id
  | .getServerByName name => ServerRepository.getByName name
  | .hasActiveInstance id => ServerRepository.hasActiveInstance id
  | .updateDesiredState server previous => ServerRepository.updateDesiredState server previous
  | .updateSpec server previous => ServerRepository.updateSpec server previous
  | .archiveServer server previous => ServerRepository.archive server previous
  | .insertInstance server id now => ServerInstanceRepository.insertForRunningServer server id now
  | .getInstance id => ServerInstanceRepository.get id
  | .getActiveInstance server => ServerInstanceRepository.getActiveForServer server
  | .requestStop id now => ServerInstanceRepository.requestStop id now
  | .markDataPrepared id now => ServerInstanceRepository.markDataPrepared id now
  | .observeProcess id running now => ServerInstanceRepository.observeProcess id running now
  | .recordError id message now => ServerInstanceRepository.recordError id message now
  | .completeInstance id result now => ServerInstanceRepository.complete id result now
  | .commitSnapshot id token snapshot now => SnapshotRepository.commit id token snapshot now
  | .insertCompute id server_instance provider connection enrollment now =>
      ComputeInstanceRepository.insertForInstance id server_instance provider connection enrollment now
  | .getCompute id => ComputeInstanceRepository.get id
  | .getActiveCompute id => ComputeInstanceRepository.getActiveForInstance id
  | .listActiveLocalOwnership => ComputeInstanceRepository.listActiveLocalOwnership
  | .listActiveAkamai => ComputeInstanceRepository.listActiveAkamai
  | .recordProcessId id processId now => ComputeInstanceRepository.recordProcessId id processId now
  | .recordProviderInstance id provider ipv4 now =>
      ComputeInstanceRepository.recordProviderInstance id provider ipv4 now
  | .getAgentEnrollment id token => ComputeInstanceRepository.getAgentEnrollment id token
  | .recordAgentCertificate id token certificate =>
      ComputeInstanceRepository.recordAgentCertificate id token certificate
  | .authenticateAgent id provider token der now =>
      ComputeInstanceRepository.authenticateAgent id provider token der now
  | .requestShutdown id now => ComputeInstanceRepository.requestShutdown id now
  | .terminateCompute id result message now => ComputeInstanceRepository.terminate id result message now

end McServer.ControlPlane
