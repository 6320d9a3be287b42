import McServer.System.Facts

set_option autoImplicit false

namespace McServer.System

open Domain Store Agent ControlPlane Interleaving

def requestedName : ClientRequest → String
  | .create name _ => name
  | .apply name _ _ => name
  | .setDesiredState name _ _ => name
  | .archive name _ => name

def expectedGeneration : ClientRequest → Option Nat
  | .create _ _ => none
  | .apply _ _ expected => expected
  | .setDesiredState _ _ expected => expected
  | .archive _ expected => expected

def Unchanged (name : String) (generation : Nat) (server : Server) (window : List Database) : Prop :=
  ∃ state ∈ window, ∃ row ∈ state.servers,
    row.name.asStr = name ∧ row.generation = generation ∧ row.toServer = server

def MovedOn (name : String) (generation : Nat) (server : Server) (window : List Database) : Prop :=
  ∃ recent written between read older, window = recent ++ written :: (between ++ read :: older) ∧
    ∃ row ∈ read.servers, row.name.asStr = name ∧ row.generation = generation ∧
      (∀ state ∈ between, ∃ same ∈ state.servers, same.id = row.id ∧ same.generation = generation ∧
        definition same.toServer = definition row.toServer) ∧
      server.generation = generation + 1 ∧ ∃ new ∈ written.servers, new.id = row.id ∧
        new.generation = generation + 1 ∧ definition new.toServer = definition server

def ClientTold (request : ClientRequest) (window : List Database) :
    Except ApplicationError Server → Prop
  | .ok server => ∀ generation, expectedGeneration request = some generation →
      Unchanged (requestedName request) generation server window ∨
        MovedOn (requestedName request) generation server window
  | .error (.generationConflict expected actual) =>
      expected = expectedGeneration request ∧ expected ≠ some actual
  | .error _ => True

def AgentTold (db : Database) (earlier : List Entry) (request : AgentRequest)
    (certificateDer : Option (List UInt8)) (window : List Database) : AgentResponse → Prop
  | .enrolled result => ∃ params, request.method = .enroll (some params) ∧
      (∃ row ∈ db.computeInstances, row.id = params.computeInstanceId ∧
        row.agentCsrPem = some params.certificateSigningRequestPem ∧
        row.agentCertificateChainPem = some result.clientCertificateChainPem ∧
        row.connectionToken = result.connectionToken) ∧
      ∃ state ∈ window, ∃ row ∈ state.computeInstances, row.id = params.computeInstanceId ∧
        row.provider = .akamai ∧ row.enrollmentToken = some params.enrollmentToken ∧
        row.terminatedAt = none
  | .registered _ => ∃ params provider now, request.method = .register (some params) ∧
      .authenticated params.computeInstanceId provider params.connectionToken certificateDer now ∈ earlier
  | _ => True

-- The compute has this connection token and, at the provider, this certificate; its enrolment is
-- over.
def Authentic (db : Database) (compute : ComputeInstanceId) (provider : ComputeProvider)
    (token : String) (certificateDer : Option (List UInt8)) (now : UnixTimestampMillis) : Prop :=
  ∃ row ∈ db.computeInstances, row.id = compute ∧ row.provider = provider ∧
    row.connectionToken = token ∧ (provider = .akamai → row.enrollmentToken = none ∧
      row.agentCsrPem.isSome ∧ certificateDer.isSome ∧ row.agentCertificateDer = certificateDer ∧
      ∃ expires, row.agentCertificateExpiresAt = some expires ∧ now < expires)

-- The key prefix is that of the repository the compute's instance was given.
def Scoped (issuers : R2TemporaryCredentialManager → Prop) (db : Database)
    (compute : ComputeInstanceId) (keyPrefix : String) : Prop :=
  ∃ manager, issuers manager ∧ ∃ row ∈ db.computeInstances, row.id = compute ∧ row.provider = .akamai ∧
      ∃ found ∈ db.serverInstances, found.id = row.serverInstanceId ∧
        repositoryPrefix manager.parseUrl found.resolvedSpec.data.repository manager.config.accountId
          manager.config.bucket = .ok keyPrefix

-- The data was published before, or there is none and there will be none.
def Accounted (world : World) (earlier : List Entry) (id : ServerInstanceId) : Prop :=
  Committed earlier id ∨ Idle world id

def Replaced (db : Database) (vm : ProviderInstance) (compute : ComputeInstanceId) : Prop :=
  ∃ row ∈ db.computeInstances, row.id = compute ∧
    ∃ recorded, row.providerInstanceId = some recorded ∧ recorded ≠ toString vm.id

def Explained (issuers : R2TemporaryCredentialManager → Prop) (world : World)
    (earlier : List Entry) : Entry → Prop
  | .replied request result window => ClientTold request window result
  | .answered request der response window => AgentTold world.db earlier request der window response
  | .executed compute command => Permitted world compute command ∧
      ∀ params, command = .cleanupInstance params →
        ∃ id : ServerInstanceId, id.uuid = params.serverInstanceId ∧ Accounted world earlier id
  | .happened _ _ => True
  | .committed id snapshotId => Provenance world id snapshotId
  | .completed id => Accounted world earlier id
  | .terminated compute => ∃ id, Allocated world.db compute id ∧ Accounted world earlier id
  | .stateDirectoryRemoved compute => ∃ id, Allocated world.db compute id ∧ Accounted world earlier id
  | .vmDeleted vm db => ∀ data, vm.userData = some data →
      ∃ id, Allocated world.db data.computeInstanceId id ∧
        (Accounted world earlier id ∨ Replaced db vm data.computeInstanceId ∧ ¬ Started earlier id)
  | .authenticated compute provider token der now => Authentic world.db compute provider token der now
  | .credentialsIssued compute keyPrefix => Scoped issuers world.db compute keyPrefix

def ExplainedLog (issuers : R2TemporaryCredentialManager → Prop) (world : World) : Prop :=
  ∀ entry earlier, entry :: earlier <:+ world.log → Explained issuers world earlier entry

def snapshotsInstance (id : ServerInstanceId) : Command → Bool
  | .snapshotData params => params.identity.serverInstanceId = id.uuid
  | _ => false

def Made (world : World) (compute : ComputeInstanceId) (snapshotId : String) : Prop :=
  ∃ id, Allocated world.db compute id ∧ Provenance world id snapshotId

structure Agents (world : World) : Prop where
  queued : ∀ compute, ∀ exchange ∈ (world.links compute).queue, Permitted world compute exchange.command
  ordered : ∀ compute, (world.links compute).queue.Pairwise fun first second =>
    ∀ id, snapshotsInstance id first.command = true → startsInstance id second.command = false
  known : ∀ compute snapshotId, (world.hosts compute).lastSnapshotId = some snapshotId →
    Made world compute snapshotId
  inspected : ∀ compute exchange result snapshotId,
    (exchange, .ok (.inspected result)) ∈ (world.links compute).answers →
    result.lastSnapshotId = some snapshotId → Made world compute snapshotId
  published : ∀ compute exchange snapshotId,
    (exchange, .ok (.snapshot snapshotId)) ∈ (world.links compute).answers →
    Made world compute snapshotId

structure Fleet (provider : Provider) : Prop where
  below : ∀ vm ∈ provider.instances, vm.id < provider.nextId
  within : ∀ vm ∈ provider.instances, vm.id ≤ maximumU64
  numbered : Table.Unique (fun vm : ProviderInstance => vm.id) provider.instances
  tenant : ∀ vm ∈ provider.instances, ∀ data, vm.userData = some data →
    vm.label = providerLabel data.computeInstanceId
  managed : ∀ vm ∈ provider.instances, ∀ compute, vm.label = providerLabel compute →
    ∃ data, vm.userData = some data ∧ data.computeInstanceId = compute
  single : ∀ first ∈ provider.instances, ∀ second ∈ provider.instances, ∀ compute,
    first.label = providerLabel compute → second.label = providerLabel compute → first = second

structure Tenancy (db : Database) (provider : Provider) : Prop where
  row : ∀ vm ∈ provider.instances, ∀ compute, vm.label = providerLabel compute →
    ∃ row ∈ db.computeInstances, row.id = compute ∧ row.provider = .akamai
  recorded : ∀ vm ∈ provider.instances, ∀ row ∈ db.computeInstances,
    vm.label = providerLabel row.id → ∀ found ∈ db.serverInstances,
    found.id = row.serverInstanceId → found.dataPreparedAt.isSome →
    row.providerInstanceId = some (toString vm.id)

structure Policy (setup : Setup) where
  admits : DesiredServerSpec → Prop
  admissible : ServerName → ServerSpec → Prop
  created : ∀ name desired spec, admits desired →
    desired.resolve none (ServerService.r2Repository setup.r2RepositoryBase name) = .ok spec →
    admissible name spec
  applied : ∀ name desired (old spec : ServerSpec), admits desired → admissible name old →
    desired.resolve (some old.data) none = .ok spec → admissible name spec
  issuers : R2TemporaryCredentialManager → Prop
  configured : ∀ manager, setup.r2Credentials = some manager → issuers manager

def Policy.unrestricted (setup : Setup) : Policy setup where
  admits _ := True
  admissible _ _ := True
  created _ _ _ _ _ := trivial
  applied _ _ _ _ _ _ _ := trivial
  issuers _ := True
  configured _ _ := trivial

def Policy.admitsTask {setup : Setup} (policy : Policy setup) (_ : Thread) : Task → Prop
  | .request (.create _ spec) => policy.admits spec
  | .request (.apply _ spec _) => policy.admits spec
  | _ => True

structure Specified {setup : Setup} (policy : Policy setup) (db : Database) : Prop where
  servers : ∀ server ∈ db.servers, policy.admissible server.name server.spec
  instances : ∀ row ∈ db.serverInstances, ∃ server ∈ db.servers, server.id = row.serverId ∧
    policy.admissible server.name row.resolvedSpec

structure Inv (setup : Setup) (policy : Policy setup) (world : World) : Prop where
  history : History world.db world.past
  log : ExplainedLog policy.issuers world
  agents : Agents world
  fleet : Fleet world.provider
  tenancy : Tenancy world.db world.provider
  specified : Specified policy world.db
  results : ∀ row ∈ world.db.serverInstances, ∀ snapshotId, row.resultSnapshotId = some snapshotId →
    .committed row.id snapshotId ∈ world.log
  terminated : ∀ row ∈ world.db.computeInstances, row.terminatedAt.isSome → Spared world row.serverInstanceId
  directories : ∀ compute ∈ world.machine.directories,
    ∃ row ∈ world.db.computeInstances, row.id = compute ∧ row.provider = .localProcess

section Guards

variable (setup : Setup) (policy : Policy setup)

def Expendable (world : World) (compute : ComputeInstanceId) : Prop :=
  ∃ id, Allocated world.db compute id ∧ Spared world id

def Legitimate (world : World) : DbOp → Prop
  | .createServer server => policy.admissible server.name server.spec
  | .updateSpec server _ => ∀ row ∈ world.db.servers, row.id = server.id →
      policy.admissible row.name server.spec
  | .completeInstance id _ _ => Spared world id
  | .terminateCompute compute _ _ _ => Expendable world compute
  | .commitSnapshot id _ snapshotId _ => Provenance world id snapshotId
  | .markDataPrepared id _ => ∀ row ∈ world.db.computeInstances, row.serverInstanceId = id →
      ∀ vm ∈ world.provider.instances, vm.label = providerLabel row.id →
        row.providerInstanceId = some (toString vm.id)
  | .recordProviderInstance compute recorded _ _ => ∀ row ∈ world.db.computeInstances,
      row.id = compute → ∀ found ∈ world.db.serverInstances, found.id = row.serverInstanceId →
        found.dataPreparedAt.isSome → ∀ vm ∈ world.provider.instances,
          vm.label = providerLabel compute → recorded = toString vm.id
  | _ => True

def ReadBefore (world : World) (generation : Nat) (drafted : Server → Prop) : Prop :=
  ∃ state ∈ world.past, ∃ row ∈ state.servers, row.generation = generation ∧ drafted row.toServer

def IsConnectionToken (token : String) : Prop :=
  ∃ first second : Uuid, token = first.simple ++ second.simple

-- The arguments of the statement are what its callers make of what they have read.
def Drafted (world : World) : DbOp → Prop
  | .createServer server => ∃ id name spec now, Server.new id name spec now = .ok server
  | .updateDesiredState server previous => ReadBefore world previous fun read =>
      ∃ desired now, (read.setDesiredState desired now).1 = .ok true ∧
        server = (read.setDesiredState desired now).2
  | .updateSpec server previous => ReadBefore world previous fun read =>
      ∃ spec now, spec.data = read.spec.data ∧ (read.updateSpec spec now).1 = .ok true ∧
        server = (read.updateSpec spec now).2
  | .archiveServer server previous => ReadBefore world previous fun read =>
      ∃ now, (read.archive now).1 = .ok true ∧ server = (read.archive now).2
  | .recordError _ message _ => ∃ error : ReconcileError, message = error.message
  | .insertCompute _ owner provider connection enrollment _ => IsConnectionToken connection ∧
      (∀ token, enrollment = some token → IsConnectionToken token) ∧
        (provider = .localProcess → enrollment = none) ∧
        (provider = .akamai → ∀ found ∈ world.db.serverInstances, found.id = owner →
          found.resolvedSpec.compute ≠ .local)
  | .recordProviderInstance _ recorded ipv4 _ => ∃ vm : ProviderInstance, vm.id ≤ maximumU64 ∧
      recorded = toString vm.id ∧ ipv4 = vm.publicIpv4
  | .terminateCompute _ _ message _ => message = none
  | _ => True

def Issuable (world : World) (op : DbOp) : Prop :=
  op.Allowed world.db ∧ Legitimate setup policy world op ∧ Drafted world op

def clientStatement : DbOp → Bool
  | .createServer _ | .updateSpec _ _ | .updateDesiredState _ _ | .archiveServer _ _ => true
  | .getServer _ | .getServerByName _ | .hasActiveInstance _ => true
  | _ => false

def clientGuard (world : World) : Op → Prop
  | .db op => Issuable setup policy world op ∧ clientStatement op = true
  | .clock | .newUuid | .begin => True
  | .reply since request result => ClientTold request (world.window since) result
  | _ => False

def connectionStatement : DbOp → Bool
  | .getAgentEnrollment _ _ | .recordAgentCertificate _ _ _ | .authenticateAgent _ _ _ _ _ => true
  | .getCompute _ | .getInstance _ => true
  | _ => false

def connectionGuard (world : World) : Op → Prop
  | .db op => Issuable setup policy world op ∧ connectionStatement op = true
  | .clock | .begin | .openssl _ _ => True
  | .link .accept | .link (.register _ _) | .link (.endSession _ _) | .link (.unregister _ _) => True
  | .issueCredentials compute keyPrefix _ => Scoped policy.issuers world.db compute keyPrefix
  | .respond since request der response =>
      AgentTold world.db world.log request der (world.window since) response
  | _ => False

def workerRequest (world : World) : ProviderOp → Prop
  | .createInstance request => ∃ compute, request.label = providerLabel compute ∧
      request.userData.computeInstanceId = compute ∧
      (∀ vm ∈ world.provider.instances, vm.label ≠ providerLabel compute) ∧
      ∃ row ∈ world.db.computeInstances, row.id = compute ∧ row.provider = .akamai ∧
        ∀ found ∈ world.db.serverInstances, found.id = row.serverInstanceId → found.dataPreparedAt = none
  | .deleteInstance id => ∀ vm ∈ world.provider.instances, vm.id = id →
      ∀ data, vm.userData = some data → Expendable world data.computeInstanceId ∨
        Replaced world.db vm data.computeInstanceId ∧
          ∃ owner, Allocated world.db data.computeInstanceId owner ∧ ¬ Started world.log owner
  | _ => True

def localGuard (world : World) : LocalOp → Prop
  | .createStateDirectory compute =>
      ∃ row ∈ world.db.computeInstances, row.id = compute ∧ row.provider = .localProcess
  | .removeStateDirectory compute => Expendable world compute
  | _ => True

def workerGuard (world : World) : Op → Prop
  | .db op => Issuable setup policy world op
  | .provider op => workerRequest world op
  | .machine op => localGuard world op
  | .link (.isConnected _) | .link (.await _ _) => True
  | .link (.send compute command) => Permitted world compute command ∧
      ∀ id, startsInstance id command = true → ¬ StopRequested world.db id
  | .clock | .newUuid | .readBounded _ _ => True
  | _ => False

end Guards

structure Untouched (before after : Provider) : Prop where
  vms : ∀ vm ∈ after.instances, vm ∈ before.instances ∨ before.nextId ≤ vm.id ∧ isForeignLabel vm.label = true
  nextId : before.nextId ≤ after.nextId

def SameAllocation (old new : ComputeRow) : Prop :=
  new.id = old.id ∧ new.serverInstanceId = old.serverInstanceId ∧ new.provider = old.provider ∧
    new.providerInstanceId = old.providerInstanceId ∧ new.terminatedAt = old.terminatedAt

structure Extends (before after : World) : Prop where
  past : before.past <:+ after.past
  log : before.log <:+ after.log

structure Undisturbed (before after : World) : Prop where
  persists : Persists before after
  instances : after.db.serverInstances = before.db.serverInstances
  computes : Table.Moved SameAllocation before.db.computeInstances after.db.computeInstances
  account : Untouched before.provider after.provider

def contract (setup : Setup) (policy : Policy setup) : Contract Thread Op World where
  Inv := Inv setup policy
  Guard
    | .worker, op, world => workerGuard setup policy world op
    | .client _, op, world => clientGuard setup policy world op
    | .connection _, op, world => connectionGuard setup policy world op
  Rely
    | .worker, before, after => Undisturbed before after ∧ Extends before after
    | _, before, after => Extends before after

end McServer.System
