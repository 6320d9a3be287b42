import McServer.ControlPlane.Local

set_option autoImplicit false

namespace McServer.ControlPlane

open Domain Store Agent Interleaving

inductive ComputeError where
  | local (source : LocalComputeError)
  | akamai (source : AkamaiComputeError)
  | akamaiNotConfigured

def ComputeError.message : ComputeError → String
  | .local source => s!"local compute operation failed: {source.message}"
  | .akamai source => s!"Akamai compute operation failed: {source.message}"
  | .akamaiNotConfigured => "Akamai compute was requested but the provider is not configured"

structure ComputeManager where
  localProcess : LocalManager
  akamai : Option AkamaiManager

namespace ComputeManager

variable (manager : ComputeManager)

def ensureForInstance (found : ServerInstance) (now : UnixTimestampMillis) :
    Flow ComputeError (ComputeInstance × Bool) :=
  match found.resolvedSpec.compute with
  | .local => Try.raising .local (manager.localProcess.ensureForInstance found now)
  | .akamai _ _ _ _ =>
      match manager.akamai with
      | none => Try.fail .akamaiNotConfigured
      | some akamai => Try.raising .akamai (akamai.ensureForInstance found now)

def lifetimeExceeded (compute : ComputeInstance) (now : UnixTimestampMillis) : Bool :=
  match compute.provider with
  | .localProcess => false
  | .akamai => manager.akamai.any fun akamai => akamai.lifetimeExceeded compute now

def delete (compute : ComputeInstance) : Flow ComputeError Bool :=
  match compute.provider with
  | .localProcess => Try.raising .local (manager.localProcess.delete compute)
  | .akamai =>
      match manager.akamai with
      | none => Try.fail .akamaiNotConfigured
      | some akamai => Try.raising .akamai (akamai.delete compute)

end ComputeManager

inductive ReconcileError where
  | repository (source : RepositoryError)
  | domain (source : ValidationError)
  | timestamp (source : TimestampError)
  | compute (source : ComputeError)
  | agent (source : AgentCallError)
  | didNotConverge (server : ServerId)
  | writableDataLost (id : ServerInstanceId)

def ReconcileError.message : ReconcileError → String
  | .repository source => s!"reconciliation persistence operation failed: {source.message}"
  | .domain source => s!"reconciliation domain transition failed: {source.message}"
  | .timestamp source => s!"reconciliation timestamp operation failed: {source.message}"
  | .compute source => s!"compute operation failed: {source.message}"
  | .agent source => s!"node-agent operation failed: {source.message}"
  | .didNotConverge server => s!"server reconciliation did not converge for {server.uuid.hyphenated}"
  | .writableDataLost id =>
      s!"writable data for server instance {id.uuid.hyphenated} has no surviving compute instance"

inductive StepOutcome where
  | changed
  | stable
  | awaiting
  deriving DecidableEq, Repr

inductive ReconcileOutcome where
  | stable
  | retry
  deriving DecidableEq, Repr

def maxImmediateTransitions : Nat := 32

abbrev Reconcile (A : Type) := Flow ReconcileError A

def identity (found : ServerInstance) : InstanceIdentity :=
  { serverInstanceId := found.id.uuid, fencingToken := found.fencingToken }

def createForRunningServer (server : ServerId) (now : UnixTimestampMillis) :
    Reconcile (Option ServerInstance) := do
  let uuid ← newUuid
  let inserted : Bool ← db .repository (.insertInstance server ⟨uuid⟩ now)
  if inserted then db .repository (.getInstance ⟨uuid⟩) else return none

-- An answer of another kind than the command's does not parse.
def expectInspected : CommandResult → Except AgentCallError AgentInspectResult
  | .inspected result => .ok result
  | _ => .error .serialization

def expectChanged : CommandResult → Except AgentCallError Bool
  | .changed changed => .ok changed
  | _ => .error .serialization

def expectSnapshot : CommandResult → Except AgentCallError String
  | .snapshot snapshotId => .ok snapshotId
  | _ => .error .serialization

def request {A : Type} (compute : ComputeInstanceId) (command : Command)
    (expect : CommandResult → Except AgentCallError A) : Reconcile A :=
  Try.raising .agent (Try.bind (call compute command) fun result => Try.ofExcept (expect result))

namespace ReconcileWorker

variable (manager : ComputeManager)

def now : Reconcile UnixTimestampMillis := clock .timestamp

def inspect (found : ServerInstance) (compute : ComputeInstance) : Reconcile AgentInspectResult :=
  request compute.id (.inspect (identity found)) expectInspected

def persistObservations (found : ServerInstance) (observed : AgentInspectResult)
    (now : UnixTimestampMillis) : Reconcile Bool := do
  if observed.dataPrepared && found.dataPreparedAt.isNone then
    let _ : Bool ← db .repository (.markDataPrepared found.id now)
    return true
  if found.processObservedAt.isNone || found.processRunning != observed.processRunning then
    let _ : Bool ← db .repository (.observeProcess found.id observed.processRunning now)
    return true
  return false

def unpublished (found : ServerInstance) : Bool :=
  found.dataPreparedAt.isSome && found.resultSnapshotId.isNone

def inspectAndPersist (found : ServerInstance) (compute : ComputeInstance) :
    Reconcile (AgentInspectResult × Bool) := do
  let observed ← inspect found compute
  Try.failIf (unpublished found && !observed.dataPrepared) (.writableDataLost found.id)
  let observedAt ← now
  let persisted ← persistObservations found observed observedAt
  return (observed, persisted)

def stopForLifetime (server : Server) (provisionedAt : UnixTimestampMillis) : Reconcile StepOutcome := do
  let (changed, stopped) := server.setDesiredState .stopped provisionedAt
  let _ ← Try.raising .domain (Try.ofExcept changed)
  let _ : Bool ← db .repository (.updateDesiredState stopped server.generation)
  return .changed

def restore (server : Server) (found : ServerInstance) (compute : ComputeInstance) :
    Reconcile StepOutcome := do
  let _ ← request compute.id
    (.restoreData { identity := identity found, serverId := server.id.uuid
                    repository := found.resolvedSpec.data.repository
                    sourceSnapshotId := found.sourceSnapshotId }) expectChanged
  let preparedAt ← now
  let _ : Bool ← db .repository (.markDataPrepared found.id preparedAt)
  return .changed

def start (found : ServerInstance) (compute : ComputeInstance) : Reconcile StepOutcome := do
  let _ ← request compute.id
    (.startServer { identity := identity found, process := found.resolvedSpec.process }) expectChanged
  let startedAt ← now
  let _ : Bool ← db .repository (.observeProcess found.id true startedAt)
  return .changed

def reconcileRunning (server : Server) (found : ServerInstance) : Reconcile StepOutcome := do
  let provisionedAt ← now
  let (compute, changed) ← Try.raising .compute (manager.ensureForInstance found provisionedAt)
  if changed then return .changed
  if manager.lifetimeExceeded compute provisionedAt then
    return ← stopForLifetime server provisionedAt
  if !(← isConnected compute.id) then return .awaiting
  let (observed, persisted) ← inspectAndPersist found compute
  if persisted then return .changed
  if !observed.dataPrepared then return ← restore server found compute
  if !observed.processRunning then return ← start found compute
  return .stable

def complete (found : ServerInstance) : Reconcile StepOutcome := do
  Try.failIf (unpublished found) (.writableDataLost found.id)
  let time ← now
  let completed : Bool ← db .repository (.completeInstance found.id .completed time)
  return if completed then .changed else .stable

def deleteCompute (compute : ComputeInstance) : Reconcile StepOutcome := do
  let deleted ← Try.raising .compute (manager.delete compute)
  return if deleted then .changed else .awaiting

def stopProcess (found : ServerInstance) (compute : ComputeInstance) : Reconcile StepOutcome := do
  let _ ← request compute.id
    (.stopServer { identity := identity found
                   stopTimeoutSeconds := found.resolvedSpec.process.stopTimeoutSeconds }) expectChanged
  let stoppedAt ← now
  let _ : Bool ← db .repository (.observeProcess found.id false stoppedAt)
  return .changed

def commit (found : ServerInstance) (snapshotId : String) : Reconcile StepOutcome := do
  let committedAt ← now
  let _ : Bool ← db .repository (.commitSnapshot found.id found.fencingToken snapshotId committedAt)
  return .changed

def publish (server : Server) (found : ServerInstance) (compute : ComputeInstance)
    (lastSnapshotId : Option String) : Reconcile StepOutcome := do
  match lastSnapshotId with
  | some snapshotId => commit found snapshotId
  | none =>
      let snapshotId ← request compute.id
        (.snapshotData { identity := identity found, serverId := server.id.uuid
                         repository := found.resolvedSpec.data.repository }) expectSnapshot
      commit found snapshotId

def cleanUp (found : ServerInstance) (compute : ComputeInstance) : Reconcile StepOutcome := do
  let changed ← request compute.id (.cleanupInstance (identity found)) expectChanged
  if changed then return .changed
  deleteCompute manager compute

def stopConnected (server : Server) (found : ServerInstance) (compute : ComputeInstance) :
    Reconcile StepOutcome := do
  let provisionedAt ← now
  let (_, changed) ← Try.raising .compute (manager.ensureForInstance found provisionedAt)
  if changed then return .changed
  if !(← isConnected compute.id) then return .awaiting
  let (observed, persisted) ← inspectAndPersist found compute
  if persisted then return .changed
  if observed.processRunning then return ← stopProcess found compute
  if unpublished found then return ← publish server found compute observed.lastSnapshotId
  cleanUp manager found compute

-- Evaluated left to right: the registry is asked only when nothing else has decided.
def mayDelete (found : ServerInstance) (compute : ComputeInstance) : Reconcile Bool := do
  if unpublished found then return false
  if compute.shutdownRequestedAt.isSome then return true
  return !(← isConnected compute.id)

def reconcileStopping (server : Server) (found : ServerInstance) : Reconcile StepOutcome := do
  let active : Option ComputeInstance ← db .repository (.getActiveCompute found.id)
  match active with
  | none => complete found
  | some compute =>
      if ← mayDelete found compute then deleteCompute manager compute
      else stopConnected manager server found compute

def createInstance (server : Server) : Reconcile StepOutcome := do
  if server.desiredState = .running then
    let time ← now
    let created ← createForRunningServer server.id time
    return if created.isSome then .changed else .stable
  return .stable

def reconcileActive (server : Server) (found : ServerInstance) : Reconcile StepOutcome := do
  if server.desiredState = .stopped ∧ found.stopRequestedAt.isNone then
    let time ← now
    let requested : Bool ← db .repository (.requestStop found.id time)
    if requested then return .changed
  if found.stopRequestedAt.isSome then reconcileStopping manager server found
  else reconcileRunning manager server found

def reconcileOnce (serverId : ServerId) : Reconcile StepOutcome := do
  let stored : Option Server ← db .repository (.getServer serverId)
  match stored with
  | none => return .stable
  | some server =>
      let active : Option ServerInstance ← db .repository (.getActiveInstance serverId)
      match active with
      | none => createInstance server
      | some found => reconcileActive manager server found

def reconcileTurns (serverId : ServerId) : Nat → Reconcile ReconcileOutcome
  | 0 => Try.fail (.didNotConverge serverId)
  | turns + 1 => do
      match ← reconcileOnce manager serverId with
      | .changed => reconcileTurns serverId turns
      | .stable => return .stable
      | .awaiting => return .retry

def reconcileUntilBlocked (serverId : ServerId) : Reconcile ReconcileOutcome :=
  reconcileTurns manager serverId maxImmediateTransitions

-- Every failure on the way leaves the error unrecorded.
def recordError (serverId : ServerId) (error : ReconcileError) : Reconcile Unit := do
  let active : Option ServerInstance ← db .repository (.getActiveInstance serverId)
  match active with
  | none => return ()
  | some found =>
      let time ← now
      db .repository (.recordError found.id error.message time)

def reconcileAndSchedule (serverId : ServerId) : Prog Op Op.Res Unit :=
  Prog.bind (reconcileUntilBlocked manager serverId) fun
    | .ok _ => .done ()
    | .error error => Prog.bind (recordError serverId error) fun _ => .done ()

end ReconcileWorker

def startUp (manager : ComputeManager) (reapLocal : Bool) : Reconcile Unit := do
  if reapLocal then
    let ownership : List (ComputeInstanceId × ServerInstanceId) ←
      db .repository .listActiveLocalOwnership
    Try.raising (fun error => .compute (.local error)) (manager.localProcess.reapOrphans ownership)
  match manager.akamai with
  | none => return ()
  | some akamai =>
      if akamai.config.reapOrphansOnStart then
        let active : List ComputeInstance ← db .repository .listActiveAkamai
        Try.raising (fun error => .compute (.akamai error)) (akamai.reapOrphans active)

end McServer.ControlPlane
