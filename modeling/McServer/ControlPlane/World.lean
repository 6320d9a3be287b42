import McServer.ControlPlane.Operations

set_option autoImplicit false

namespace McServer.ControlPlane

open Domain Store Agent Interleaving

inductive ClientRequest where
  | create (name : String) (spec : DesiredServerSpec)
  | apply (name : String) (spec : DesiredServerSpec) (expectedGeneration : Option Nat)
  | setDesiredState (name : String) (state : DesiredState) (expectedGeneration : Option Nat)
  | archive (name : String) (expectedGeneration : Option Nat)
  deriving DecidableEq

inductive ApplicationError where
  | validation (source : ValidationError)
  | notFound
  | serverHasActiveInstance
  | generationConflict (expected : Option Nat) (actual : Nat)
  | concurrentUpdate
  | repository (source : RepositoryError)
  | timestamp (source : TimestampError)
  deriving DecidableEq

structure EnrollParams where
  protocolVersion : Nat
  computeInstanceId : ComputeInstanceId
  enrollmentToken : String
  certificateSigningRequestPem : String
  deriving DecidableEq

structure EnrollResult where
  clientCertificateChainPem : String
  connectionToken : String
  deriving DecidableEq

structure RegisterParams where
  protocolVersion : Nat
  computeInstanceId : ComputeInstanceId
  connectionToken : String
  deriving DecidableEq

inductive AgentMethod where
  | enroll (params : Option EnrollParams)
  | register (params : Option RegisterParams)
  | other
  deriving DecidableEq

inductive RequestId where
  | missing
  | invalid
  | present
  deriving DecidableEq, Repr

-- The first request of an agent connection; parameters that do not parse are `none`.
structure AgentRequest where
  id : RequestId
  validVersion : Bool
  method : AgentMethod
  deriving DecidableEq

inductive AgentResponse where
  | invalidRequest
  | rejected (message : String)
  | invalidParams
  | protocolMismatch
  | enrolled (result : EnrollResult)
  | registered (runtimeEnvironment : List (String × String))
  deriving DecidableEq

inductive AgentCertificateError where
  | csrTooLarge
  | invalidCsr
  | io
  | commandTimeout (description : String)
  | commandFailed (description : String)
  | invalidEncoding
  | certificateTooLarge
  | fileTooLarge (maximum : Nat)
  | timestampOutOfRange
  deriving DecidableEq, Repr

-- The files openssl leaves behind for a request it has verified and signed.
structure SignedFiles where
  leafPem : String
  caPem : String
  leafDer : List UInt8
  deriving DecidableEq

structure R2TemporaryCredentials where
  accessKeyId : String
  secretAccessKey : String
  sessionToken : String
  deriving DecidableEq

inductive R2TemporaryCredentialError where
  | request
  | reservedRuntimeKey (key : String)
  | unsupportedRepository (repository : String)
  | repositoryBucketMismatch (expected : String)
  | unsafeRepositoryPrefix (repository : String)
  | invalidPrefix (value : String)
  deriving DecidableEq, Repr

-- What happened, as an observer outside the control plane can tell it. A `window` holds the
-- database states between the moment a call began and the moment it was answered, newest first.
inductive Entry where
  | replied (request : ClientRequest) (result : Except ApplicationError Server) (window : List Database)
  | answered (request : AgentRequest) (certificateDer : Option (List UInt8)) (response : AgentResponse)
      (window : List Database)
  | executed (compute : ComputeInstanceId) (command : Command)
  | happened (compute : ComputeInstanceId) (event : AgentEvent)
  | committed (id : ServerInstanceId) (snapshotId : String)
  | completed (id : ServerInstanceId)
  | terminated (compute : ComputeInstanceId)
  | stateDirectoryRemoved (compute : ComputeInstanceId)
  | vmDeleted (vm : ProviderInstance) (db : Database)
  | authenticated (compute : ComputeInstanceId) (provider : ComputeProvider) (token : String)
      (certificateDer : Option (List UInt8)) (now : UnixTimestampMillis)
  | credentialsIssued (compute : ComputeInstanceId) (keyPrefix : String)

structure World where
  db : Database
  -- Every state the database went through, newest first.
  past : List Database
  provider : Provider
  machine : LocalMachine
  links : ComputeInstanceId → Link
  nextConnection : Nat
  nextTag : Nat
  hosts : ComputeInstanceId → Host
  repositories : String → Option (List (String × Directory))
  log : List Entry

-- A request fails without its effect, or takes effect and its answer is lost.
inductive Fault where
  | none
  | before
  | after
  deriving DecidableEq, Repr

-- How an operation on the control plane's own machine fails.
inductive LocalError where
  | io (detail : String)
  | runtimeStateSerialization (detail : String)
  | invalidPodmanOutputEncoding
  | controlCommandTimeout (duration : String)
  | podmanCommandFailed (status : Option Int) (stderr : String)
  | spawn (binary : String)
  | missingProcessId
  | signalFailed (processId : Nat) (signal : String) (status : Option Int)
  deriving DecidableEq

def LocalError.message : LocalError → String
  | .io detail => s!"local compute filesystem or process operation failed: {detail}"
  | .runtimeStateSerialization detail => s!"local runtime metadata serialization failed: {detail}"
  | .invalidPodmanOutputEncoding => "Podman output was not valid UTF-8"
  | .controlCommandTimeout duration => s!"local Podman control command exceeded {duration}"
  | .podmanCommandFailed status stderr =>
      s!"Podman command failed with status {debugStatus status}: {stderr}"
  | .spawn binary => s!"failed to spawn node-agent binary {binary}"
  | .missingProcessId => "spawned node-agent has no process id"
  | .signalFailed processId signal status =>
      s!"failed to signal process {processId} with \"{signal}\"; status {debugStatus status}"

structure Choice where
  fault : Fault
  now : Except TimestampError UnixTimestampMillis
  uuid : Uuid
  answers : ProviderAnswers
  callError : AgentCallError
  localError : LocalError
  expired : Bool
  processId : Nat
  startTimeTicks : Nat
  containers : List ContainerListing
  directories : List ComputeInstanceId
  file : Except BootstrapError String
  signed : Except AgentCertificateError SignedFiles
  credentials : Except R2TemporaryCredentialError R2TemporaryCredentials

inductive Op where
  | db (op : DbOp)
  | clock
  | newUuid
  | provider (op : ProviderOp)
  | machine (op : LocalOp)
  | link (op : LinkOp)
  | readBounded (path : String) (maximum : Nat)
  | openssl (compute : ComputeInstanceId) (csr : String)
  | issueCredentials (compute : ComputeInstanceId) (keyPrefix : String) (ttlSeconds : Nat)
  | begin
  | reply (since : Nat) (request : ClientRequest) (result : Except ApplicationError Server)
  | respond (since : Nat) (request : AgentRequest) (certificateDer : Option (List UInt8))
      (response : AgentResponse)

def Op.Res : Op → Type
  | .db op => Except RepositoryError op.Value
  | .clock => Except TimestampError UnixTimestampMillis
  | .newUuid => Uuid
  | .provider op => Except RequestError op.Value
  | .machine op => Except LocalError op.Value
  | .link op => op.Value
  | .readBounded _ _ => Except BootstrapError String
  | .openssl _ _ => Except AgentCertificateError SignedFiles
  | .issueCredentials _ _ _ => Except R2TemporaryCredentialError R2TemporaryCredentials
  | .begin => Nat
  | .reply _ _ _ => Unit
  | .respond _ _ _ _ => Except Unit Unit

namespace World

def store (world : World) (db : Database) : World := { world with db, past := db :: world.past }

def note (world : World) (entries : List Entry) : World := { world with log := entries ++ world.log }

def window (world : World) (since : Nat) : List Database :=
  world.past.take (world.past.length + 1 - since)

def setLink (world : World) (compute : ComputeInstanceId) (link : Link) : World :=
  { world with links := Function.update world.links compute link }

-- No agent of the compute still reads a connection.
def cutOff (world : World) (compute : ComputeInstanceId) : World :=
  world.setLink compute { world.links compute with queue := [] }

def setHost (world : World) (compute : ComputeInstanceId) (host : Host) : World :=
  { world with hosts := Function.update world.hosts compute host }

-- A virtual machine that is gone, or new, has an empty disk.
def wipe (world : World) (compute : ComputeInstanceId) : World :=
  (world.cutOff compute).setHost compute Host.fresh

def wipeVm (world : World) (vm : ProviderInstance) : World :=
  match vm.userData with
  | some data => world.wipe data.computeInstanceId
  | none => world

end World

def dbEntries (op : DbOp) (result : Except RepositoryError op.Value) : List Entry :=
  match op, result with
  | .commitSnapshot id _ snapshotId _, .ok published => cond published [.committed id snapshotId] []
  | .completeInstance id _ _, .ok touched => cond touched [.completed id] []
  | .terminateCompute id _ _ _, .ok touched => cond touched [.terminated id] []
  | .authenticateAgent id provider token der now, .ok .accepted =>
      [.authenticated id provider token der now]
  | _, _ => []

def execDb (op : DbOp) (choice : Choice) (world : World) :
    Except RepositoryError op.Value × World :=
  let result := op.query world.db
  let applied := (world.store result.2).note (dbEntries op result.1)
  match choice.fault with
  | .none => (result.1, applied)
  | .before => (.error .database, world.store world.db)
  | .after => (.error .database, applied)

-- What becomes of the machine behind a request that the provider has carried out.
def settleProvider (op : ProviderOp) (provider : Provider) (world : World) : World :=
  let moved := { world with provider }
  match op with
  | .deleteInstance id =>
      match world.provider.find id with
      | some vm => (moved.wipeVm vm).note [.vmDeleted vm world.db]
      | none => moved
  | .createInstance request => moved.wipe request.userData.computeInstanceId
  | _ => moved

def execProvider (op : ProviderOp) (choice : Choice) (world : World) :
    Except RequestError op.Value × World :=
  let result := world.provider.apply op choice.answers
  let applied := settleProvider op result.2 world
  if world.provider.exhausted op then (.error choice.answers.error, world)
  else
    match choice.fault with
    | .none => (.ok result.1, applied)
    | .before => (.error choice.answers.error, world)
    | .after => (.error choice.answers.error, applied)

namespace LocalMachine

def processMatches (machine : LocalMachine) (processId : Nat) : Bool :=
  (machine.processes processId).any fun process =>
    process.state != 'Z' && process.state != 'X' && process.state != 'x'

def endProcess (machine : LocalMachine) (processId : Nat) : LocalMachine :=
  { machine with processes := Function.update machine.processes processId none }

def setChild (machine : LocalMachine) (compute : ComputeInstanceId) (child : Option Nat) :
    LocalMachine :=
  { machine with children := Function.update machine.children compute child }

end LocalMachine

def applyLocal (op : LocalOp) (choice : Choice) (world : World) : op.Value × World :=
  let machine := world.machine
  match op with
  | .tryWaitChild compute =>
      match machine.children compute with
      | none => (none, world)
      | some processId =>
          if machine.processMatches processId then (some true, world)
          else (some false, { world with machine := machine.setChild compute none })
  | .takeChild compute =>
      (machine.children compute, { world with machine := machine.setChild compute none })
  | .insertChild compute processId =>
      ((), { world with machine := machine.setChild compute (some processId) })
  | .waitChild processId => ((), { world with machine := machine.endProcess processId })
  | .killChild processId => ((), { world with machine := machine.endProcess processId })
  | .loadRuntimeState compute => (machine.runtimeStates compute, world)
  | .storeRuntimeState compute state =>
      ((), { world with machine := { machine with
        runtimeStates := Function.update machine.runtimeStates compute (some state) } })
  | .readBootId => (machine.bootId, world)
  | .readProcessState processId => (machine.processes processId, world)
  | .signal processId _ =>
      -- Whether the signal ends the process before the next look at it is up to the process.
      ((), if choice.expired then { world with machine := machine.endProcess processId } else world)
  | .deadlinePassed => (choice.expired, world)
  | .createStateDirectory compute =>
      ((), { world with machine := { machine with
        computes := machine.computes.insert compute
        directories := machine.directories.insert compute } })
  | .spawnAgent _ _ =>
      (choice.processId,
        { world with machine := { machine with
          processes := Function.update machine.processes choice.processId
            (some { state := 'S', startTimeTicks := choice.startTimeTicks }) } })
  | .removeStateDirectory compute =>
      let emptied := { world with machine := { machine with
        directories := machine.directories.filter (· ≠ compute)
        runtimeStates := Function.update machine.runtimeStates compute none } }
      let cleared := (emptied.cutOff compute).setHost compute (world.hosts compute).withoutDirectory
      ((), cleared.note [.stateDirectoryRemoved compute])
  | .listContainers => (choice.containers, world)
  | .removeContainer name =>
      ((), { world with hosts := fun compute =>
        if machine.computes.contains compute then
          { world.hosts compute with
            containers := fun id =>
              if containerName id = name then none else (world.hosts compute).containers id }
        else world.hosts compute })
  | .listStateDirectories => (choice.directories.filter machine.directories.contains, world)

def execLocal (op : LocalOp) (choice : Choice) (world : World) : Except LocalError op.Value × World :=
  let result := applyLocal op choice world
  match choice.fault with
  | .none => (.ok result.1, result.2)
  | .before => (.error choice.localError, world)
  | .after => (.error choice.localError, result.2)

def execSend (compute : ComputeInstanceId) (command : Command) (world : World) :
    Except AgentCallError Nat × World :=
  let link := world.links compute
  match link.registered with
  | none => (.error .notConnected, world)
  | some session =>
      if !session.usable then (.error .disconnected, world)
      else
        let exchange : Exchange := { tag := world.nextTag, command }
        let queue := if session.connection = link.live then link.queue ++ [exchange] else link.queue
        (.ok world.nextTag,
          { world.setLink compute { link with queue } with nextTag := world.nextTag + 1 })

def Link.fail (link : Link) (error : AgentCallError) : Link :=
  if error.endsSession then
    { link with registered := link.registered.map fun session => { session with usable := false } }
  else link

def execAwait (compute : ComputeInstanceId) (exchange : Exchange) (choice : Choice) (world : World) :
    Except AgentCallError CommandResult × World :=
  let link := world.links compute
  let give (error : AgentCallError) := (.error error, world.setLink compute (link.fail error))
  match choice.fault, link.answers.lookup exchange with
  | .none, some (.ok result) => (.ok result, world)
  | .none, some (.error error) => give error
  | .none, none => give .timeout
  | .before, _ => give choice.callError
  | .after, _ => give choice.callError

def execLink (op : LinkOp) (choice : Choice) (world : World) : op.Value × World :=
  match op with
  | .accept => (world.nextConnection, { world with nextConnection := world.nextConnection + 1 })
  | .register compute connection =>
      let link := { world.links compute with registered := some { connection, usable := true } }
      ((), world.setLink compute
        (if link.live < connection then { link with live := connection, queue := [] } else link))
  | .endSession compute connection =>
      let link := world.links compute
      ((), world.setLink compute { link with
        registered := link.registered.map fun session =>
          if session.connection = connection then { session with usable := false } else session })
  | .unregister compute connection =>
      let link := world.links compute
      ((), world.setLink compute { link with
        registered := link.registered.filter fun session => session.connection ≠ connection })
  | .isConnected compute => ((world.links compute).registered.isSome, world)
  | .send compute command => execSend compute command world
  | .await compute exchange => execAwait compute exchange choice world

def readBounded (path : String) (maximum : Nat) (choice : Choice) : Except BootstrapError String :=
  match choice.file with
  | .error error => .error error
  | .ok text => if maximum < text.utf8ByteSize then .error (.fileTooLarge path maximum) else .ok text

def exec (op : Op) (choice : Choice) (world : World) : op.Res × World :=
  match op with
  | .db op => execDb op choice world
  | .clock => (choice.now, world)
  | .newUuid => (choice.uuid, world)
  | .provider op => execProvider op choice world
  | .machine op => execLocal op choice world
  | .link op => execLink op choice world
  | .readBounded path maximum => (readBounded path maximum choice, world)
  | .openssl _ _ => (choice.signed, world)
  | .issueCredentials compute keyPrefix _ =>
      match choice.credentials with
      | .error error => (.error error, world)
      | .ok credentials => (.ok credentials, world.note [.credentialsIssued compute keyPrefix])
  | .begin => (world.past.length, world)
  | .reply since request result => ((), world.note [.replied request result (world.window since)])
  | .respond since request der response =>
      -- A write that fails may have reached the agent all the same; it ends the connection.
      let answered := world.note [.answered request der response (world.window since)]
      match choice.fault with
      | .none => (.ok (), answered)
      | .before => (.error (), world)
      | .after => (.error (), answered)

end McServer.ControlPlane
