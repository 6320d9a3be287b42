import McServer.System
import McServer.System.Evolution
import McServer.Agent.Behaviour

set_option autoImplicit false

namespace McServer.System

open Domain Store Agent ControlPlane

def startsInstance (id : ServerInstanceId) : Command → Bool
  | .startServer params => params.identity.serverInstanceId = id.uuid
  | _ => false

def isStartOf (id : ServerInstanceId) : Entry → Bool
  | .executed _ command => startsInstance id command
  | _ => false

def Awaiting (world : World) (id : ServerInstanceId) : Prop :=
  ∃ compute, ∃ exchange ∈ (world.links compute).queue, startsInstance id exchange.command = true

def Started (log : List Entry) (id : ServerInstanceId) : Prop := ∃ entry ∈ log, isStartOf id entry = true

def StopRequested (db : Database) (id : ServerInstanceId) : Prop :=
  ∃ row ∈ db.serverInstances, row.id = id ∧ row.stopRequestedAt.isSome

def Allocated (db : Database) (compute : ComputeInstanceId) (id : ServerInstanceId) : Prop :=
  ∃ row ∈ db.computeInstances, row.id = compute ∧ row.serverInstanceId = id

def Committed (log : List Entry) (id : ServerInstanceId) : Prop := ∃ snapshot, .committed id snapshot ∈ log

structure Idle (world : World) (id : ServerInstanceId) : Prop where
  stop : StopRequested world.db id
  quiet : ¬ Awaiting world id
  fresh : ¬ Started world.log id

structure Provenance (world : World) (id : ServerInstanceId) (snapshot : String) : Prop where
  stop : StopRequested world.db id
  quiet : ¬ Awaiting world id
  origin : ∃ recent compute messages params older,
    world.log = recent ++ .happened compute (.backedUp id.uuid messages false) ::
      .executed compute (.snapshotData params) :: older ∧
    params.identity.serverInstanceId = id.uuid ∧ parseBackupSnapshotId messages = .ok snapshot ∧
    ¬ Started recent id

def Spared (world : World) (id : ServerInstanceId) : Prop := Committed world.log id ∨ Idle world id

def fits (row : ServerInstance) : Command → Prop
  | .inspect params => params = identity row
  | .restoreData params =>
      params = { identity := identity row, serverId := row.serverId.uuid
                 repository := row.resolvedSpec.data.repository
                 sourceSnapshotId := row.sourceSnapshotId }
  | .startServer params => params = { identity := identity row, process := row.resolvedSpec.process }
  | .stopServer params => params.identity = identity row
  | .snapshotData params =>
      params = { identity := identity row, serverId := row.serverId.uuid
                 repository := row.resolvedSpec.data.repository }
  | .cleanupInstance params => params = identity row
  | .shutdown => True

-- What must hold of the instance before a command is sent to its agent.
def ready (world : World) (row : ServerInstance) : Command → Prop
  | .startServer _ => row.dataPreparedAt.isSome
  | .snapshotData _ => row.stopRequestedAt.isSome
  | .cleanupInstance _ => Spared world row.id
  | _ => True

def Permitted (world : World) (compute : ComputeInstanceId) (command : Command) : Prop :=
  ∃ row ∈ world.db.serverInstances, Allocated world.db compute row.id ∧ fits row command ∧
    ready world row command

theorem instanceId_of_uuid {first second : ServerInstanceId} (same : first.uuid = second.uuid) :
    first = second := by
  cases first
  cases second
  exact congrArg ServerInstanceId.mk same

theorem Permitted.start {world : World} {compute : ComputeInstanceId} {command : Command}
    {id : ServerInstanceId} (permitted : Permitted world compute command)
    (starts : startsInstance id command = true) :
    Allocated world.db compute id ∧
      ∃ row ∈ world.db.serverInstances, row.id = id ∧ row.dataPreparedAt.isSome := by
  obtain ⟨row, member, allocated, fit, isReady⟩ := permitted
  cases command with
  | startServer params =>
    simp only [startsInstance, decide_eq_true_eq] at starts
    rw [(fit : params = _)] at starts
    obtain rfl : row.id = id := instanceId_of_uuid starts
    exact ⟨allocated, row, member, rfl, isReady⟩
  | _ => cases starts

structure Persists (before after : World) : Prop where
  evolved : Evolved before.db after.db
  log : ∃ news, after.log = news ++ before.log ∧
    ∀ id, StopRequested before.db id → Started news id → Awaiting before id
  awaiting : ∀ id, StopRequested before.db id → Awaiting after id → Awaiting before id

theorem Started.append {first second : List Entry} {id : ServerInstanceId} :
    Started (first ++ second) id ↔ Started first id ∨ Started second id := by
  simp only [Started, List.mem_append, or_and_right, exists_or]

theorem StopRequested.evolved {before after : Database} {id : ServerInstanceId}
    (requested : StopRequested before id) (evolved : Evolved before after) : StopRequested after id := by
  obtain ⟨row, member, named, stopped⟩ := requested
  obtain ⟨new, stored, same⟩ := evolved.instances row member
  exact ⟨new, stored, same.id.trans named, same.stop stopped⟩

theorem Allocated.evolved {before after : Database} {compute : ComputeInstanceId}
    {id : ServerInstanceId} (allocated : Allocated before compute id) (evolved : Evolved before after) :
    Allocated after compute id := by
  obtain ⟨row, member, named, owner⟩ := allocated
  obtain ⟨new, stored, same⟩ := evolved.computes row member
  exact ⟨new, stored, same.id.trans named, same.owner.trans owner⟩

theorem Allocated.unique {db : Database} {compute : ComputeInstanceId} {first second : ServerInstanceId}
    (keyed : Keyed db) (left : Allocated db compute first) (right : Allocated db compute second) :
    first = second := by
  obtain ⟨row, member, named, rfl⟩ := left
  obtain ⟨other, stored, named', rfl⟩ := right
  rw [keyed.computeIds.eq_of_key member stored (named.trans named'.symm)]

theorem Allocated.single {db : Database} {first second : ComputeInstanceId} {id : ServerInstanceId}
    (allocation : Allocation db) (left : Allocated db first id) (right : Allocated db second id) :
    first = second := by
  obtain ⟨row, member, rfl, owner⟩ := left
  obtain ⟨other, stored, rfl, owner'⟩ := right
  rw [allocation.single.eq_of_key member stored (owner.trans owner'.symm)]

section Persistence

variable {before after : World}

theorem Persists.refl (world : World) : Persists world world :=
  ⟨Evolved.refl _, ⟨[], rfl, fun _ _ started => by simp [Started] at started⟩, fun _ _ awaiting => awaiting⟩

theorem Persists.trans {first second third : World} (left : Persists first second)
    (right : Persists second third) : Persists first third := by
  obtain ⟨news, extended, quiet⟩ := left.log
  obtain ⟨news', extended', quiet'⟩ := right.log
  refine ⟨left.evolved.trans right.evolved, ⟨news' ++ news, ?_, fun id stop started => ?_⟩,
    fun id stop awaiting => ?_⟩
  · rw [extended', extended, List.append_assoc]
  · rcases Started.append.mp started with later | earlier
    · exact left.awaiting id stop (quiet' id (stop.evolved left.evolved) later)
    · exact quiet id stop earlier
  · exact left.awaiting id stop (right.awaiting id (stop.evolved left.evolved) awaiting)

theorem Persists.suffix (persists : Persists before after) : before.log <:+ after.log := by
  obtain ⟨news, extended, -⟩ := persists.log
  exact ⟨news, extended.symm⟩

theorem Committed.persists {id : ServerInstanceId} (committed : Committed before.log id)
    (persists : Persists before after) : Committed after.log id := by
  obtain ⟨snapshot, member⟩ := committed
  exact ⟨snapshot, persists.suffix.subset member⟩

theorem Idle.persists {id : ServerInstanceId} (idle : Idle before id)
    (persists : Persists before after) : Idle after id := by
  obtain ⟨news, extended, quiet⟩ := persists.log
  refine ⟨idle.stop.evolved persists.evolved, fun awaiting => ?_, fun started => ?_⟩
  · exact idle.quiet (persists.awaiting id idle.stop awaiting)
  · rw [extended] at started
    rcases Started.append.mp started with later | earlier
    · exact idle.quiet (quiet id idle.stop later)
    · exact idle.fresh earlier

theorem Provenance.persists {id : ServerInstanceId} {snapshot : String}
    (provenance : Provenance before id snapshot) (persists : Persists before after) :
    Provenance after id snapshot := by
  obtain ⟨news, extended, quiet⟩ := persists.log
  obtain ⟨recent, compute, messages, params, older, split, named, parsed, unstarted⟩ := provenance.origin
  refine ⟨provenance.stop.evolved persists.evolved, fun awaiting => ?_,
    news ++ recent, compute, messages, params, older, ?_, named, parsed, fun started => ?_⟩
  · exact provenance.quiet (persists.awaiting id provenance.stop awaiting)
  · rw [extended, split, List.append_assoc]
  · rcases Started.append.mp started with later | earlier
    · exact provenance.quiet (quiet id provenance.stop later)
    · exact unstarted earlier

theorem Spared.persists {id : ServerInstanceId} (spared : Spared before id)
    (persists : Persists before after) : Spared after id := by
  rcases spared with committed | idle
  · exact .inl (committed.persists persists)
  · exact .inr (idle.persists persists)

theorem fits_evolved {old new : ServerInstance} {command : Command} (same : InstanceEvolved old new)
    (fit : fits old command) : fits new command := by
  have sameIdentity : identity new = identity old := by simp only [identity, same.id, same.token]
  cases command with
  | shutdown => trivial
  | _ =>
    simp only [fits, sameIdentity, same.server, same.spec, same.source] at fit ⊢
    exact fit

theorem Permitted.persists {compute : ComputeInstanceId} {command : Command}
    (permitted : Permitted before compute command) (persists : Persists before after) :
    Permitted after compute command := by
  obtain ⟨row, member, allocated, fit, isReady⟩ := permitted
  obtain ⟨new, stored, same⟩ := persists.evolved.instances row member
  refine ⟨new, stored, ?_, fits_evolved same fit, ?_⟩
  · rw [same.id]
    exact allocated.evolved persists.evolved
  · cases command with
    | startServer params => exact same.prepared isReady
    | snapshotData params => exact same.stop isReady
    | cleanupInstance params =>
      simp only [ready, same.id] at isReady ⊢
      exact isReady.persists persists
    | _ => trivial

end Persistence

end McServer.System
