import McServer.ControlPlane.ServerService
import McServer.ControlPlane.AgentServer
import McServer.Library.Interleaving

set_option autoImplicit false

namespace McServer.System

open Domain Store Agent ControlPlane Interleaving

structure Setup where
  manager : ComputeManager
  reapLocal : Bool
  certificateValidityMillis : Option Nat
  r2Credentials : Option R2TemporaryCredentialManager
  agentConfig : ComputeInstanceId → AgentConfig

def Setup.r2RepositoryBase (setup : Setup) : Option String :=
  setup.r2Credentials.map fun manager => manager.config.repositoryBase

def Setup.context (setup : Setup) : ComputeProvider → ConnectionContext
  | .localProcess =>
      { expectedProvider := .localProcess, certificateValidityMillis := none, r2Credentials := none }
  | .akamai =>
      { expectedProvider := .akamai
        certificateValidityMillis := setup.certificateValidityMillis
        r2Credentials := setup.r2Credentials }

inductive Thread where
  | worker
  | client (number : Nat)
  | connection (number : Nat)
  deriving DecidableEq

inductive Task where
  | startUp
  | reconcile (server : ServerId)
  | request (request : ClientRequest)
  | connect (listener : ComputeProvider) (request : AgentRequest)
      (peerCertificateDer : Option (List UInt8))

def program (setup : Setup) (thread : Thread) (task : Task) : Prog Op Op.Res Unit :=
  match thread, task with
  | .worker, .startUp =>
      Prog.bind (startUp setup.manager setup.reapLocal) fun _ => .done ()
  | .worker, .reconcile server => ReconcileWorker.reconcileAndSchedule setup.manager server
  | .client _, .request request => ServerService.serve setup.r2RepositoryBase request
  | .connection _, .connect listener request certificate =>
      handleConnection (setup.context listener) request certificate
  | _, _ => .done ()

inductive Action where
  | agentExecutes (compute : ComputeInstanceId) (choices : List AgentChoice)
  | agentRestarts (compute : ComputeInstanceId)
  | containerExits (compute : ComputeInstanceId) (id : Uuid)
  | serverWrites (compute : ComputeInstanceId) (content : String)
  | processEnds (processId : Nat)
  | machineReboots (bootId : String)
  | vmVanishes (id : Nat)
  | foreignVmAppears (vm : ProviderInstance)

def executionFailed (error : ExecutorError) : AgentCallError :=
  .remote (-32603) (if Text.isBlank error.message then "Execution failed"
    else s!"Execution failed: {error.message}")

-- How the link looks when the agent has worked on its first command: it answers, or it was
-- interrupted and reads nothing more of the connection.
def settle (link : Link) (exchange : Exchange) (rest : List Exchange)
    (progress : AgentM CommandResult) : Link :=
  match progress with
  | .done (.ok result) =>
      { link with queue := rest, answers := (exchange, .ok result) :: link.answers }
  | .done (.error error) =>
      { link with queue := rest, answers := (exchange, .error (executionFailed error)) :: link.answers }
  | .call _ _ => { link with queue := [] }

def agentExecutes (setup : Setup) (compute : ComputeInstanceId) (choices : List AgentChoice)
    (world : World) : World :=
  let link := world.links compute
  match link.queue with
  | [] => world
  | exchange :: rest =>
      let node : Node :=
        { host := world.hosts compute, repositories := world.repositories, events := [] }
      let progress := runPrefix Node.exec choices
        (AgentExecutor.dispatchMethod (setup.agentConfig compute) exchange.command) node
      let moved := (world.setHost compute progress.2.host).setLink compute
        (settle link exchange rest progress.1)
      { moved with
        repositories := progress.2.repositories
        log := progress.2.events.map (.happened compute) ++
          .executed compute exchange.command :: world.log }

def containerExits (compute : ComputeInstanceId) (id : Uuid) (world : World) : World :=
  let host := world.hosts compute
  world.setHost compute { host with
    containers := Function.update host.containers id
      ((host.containers id).map fun container => { container with running := false }) }

def serverWrites (compute : ComputeInstanceId) (content : String) (world : World) : World :=
  let host := world.hosts compute
  world.setHost compute { host with data := host.data.map fun data => { data with content } }

def vmVanishes (id : Nat) (world : World) : World :=
  match world.provider.find id with
  | none => world
  | some vm => { world.wipeVm vm with provider := world.provider.delete id }

-- Labels of compute instances are left to the control plane.
def isForeignLabel (label : String) : Bool :=
  match (Text.stripStart "mcserver-" label).bind Uuid.parse with
  | some uuid => providerLabel ⟨uuid⟩ != label
  | none => true

def foreignVmAppears (vm : ProviderInstance) (world : World) : World :=
  if isForeignLabel vm.label && world.provider.nextId ≤ maximumU64 then
    { world with provider :=
        { instances := world.provider.instances ++
            [{ vm with id := world.provider.nextId, userData := none }]
          nextId := world.provider.nextId + 1 } }
  else world

def environment (setup : Setup) (action : Action) (world : World) : World :=
  match action with
  | .agentExecutes compute choices => agentExecutes setup compute choices world
  | .agentRestarts compute => world.cutOff compute
  | .containerExits compute id => containerExits compute id world
  | .serverWrites compute content => serverWrites compute content world
  | .processEnds processId => { world with machine := world.machine.endProcess processId }
  | .machineReboots bootId =>
      { world with machine := { world.machine with bootId, processes := fun _ => none } }
  | .vmVanishes id => vmVanishes id world
  | .foreignVmAppears vm => foreignVmAppears vm world

-- What the control plane held in memory is gone; the machines and their agents go on.
def crash (world : World) : World :=
  { world with
    machine := { world.machine with children := fun _ => none }
    links := fun compute => { world.links compute with registered := none } }

def machine (setup : Setup) : Machine Thread Task Action Op Op.Res Choice World where
  exec := exec
  program := program setup
  environment := environment setup
  crash := crash

def initial : World :=
  { db := Database.empty
    past := [Database.empty]
    provider := { instances := [], nextId := 1 }
    machine := { bootId := "", processes := fun _ => none, runtimeStates := fun _ => none
                 computes := [], directories := [], children := fun _ => none }
    links := fun _ => Link.initial
    nextConnection := 1
    nextTag := 1
    hosts := fun _ => Host.fresh
    repositories := fun _ => none
    log := [] }

abbrev Run := List (Event Thread Task Action Choice)

def reached (setup : Setup) (run : Run) : Config Thread Op Op.Res World :=
  (machine setup).run run (Machine.idle initial)

end McServer.System
