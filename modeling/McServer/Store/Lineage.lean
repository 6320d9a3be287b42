import McServer.Store.Statements

set_option autoImplicit false

namespace McServer.Store

open Domain

def Published (rows : List ServerInstance) (server : ServerId) (bound : Nat) (row : ServerInstance) :
    Prop :=
  row ∈ rows ∧ row.serverId = server ∧ row.fencingToken < bound ∧ row.resultSnapshotId.isSome

def LastPublished (rows : List ServerInstance) (server : ServerId) (bound : Nat) :
    Option String → Prop
  | none => ∀ row, ¬ Published rows server bound row
  | some snapshot => ∃ row, Published rows server bound row ∧ row.resultSnapshotId = some snapshot ∧
      ∀ other, Published rows server bound other → other.fencingToken ≤ row.fencingToken

structure Keyed (db : Database) : Prop where
  serverIds : Table.Unique (fun row : ServerRow => row.id) db.servers
  serverNames : Table.Unique (fun row : ServerRow => row.name) db.servers
  instanceIds : Table.Unique (fun row : ServerInstance => row.id) db.serverInstances
  computeIds : Table.Unique (fun row : ComputeRow => row.id) db.computeInstances

structure Lineage (db : Database) : Prop where
  numbered : ∀ row ∈ db.serverInstances, ∃ server ∈ db.servers,
    server.id = row.serverId ∧ row.fencingToken < server.nextFencingToken
  tokens : Table.Unique (fun row : ServerInstance => (row.serverId, row.fencingToken)) db.serverInstances
  latest : ∀ row ∈ db.serverInstances, row.terminatedAt = none → ∀ other ∈ db.serverInstances,
    other.serverId = row.serverId → other.fencingToken ≤ row.fencingToken
  current : ∀ server ∈ db.servers,
    LastPublished db.serverInstances server.id server.nextFencingToken server.currentSnapshotId
  source : ∀ row ∈ db.serverInstances,
    LastPublished db.serverInstances row.serverId row.fencingToken row.sourceSnapshotId
  snapshotInstance : ∀ snapshot ∈ db.snapshots, ∃ row ∈ db.serverInstances,
    row.id = snapshot.serverInstanceId ∧ row.serverId = snapshot.serverId ∧
      row.fencingToken = snapshot.fencingToken ∧ row.resultSnapshotId = some snapshot.id
  instanceSnapshot : ∀ row ∈ db.serverInstances, ∀ id, row.resultSnapshotId = some id →
    ∃ snapshot ∈ db.snapshots, snapshot.id = id ∧ snapshot.serverInstanceId = row.id ∧
      snapshot.serverId = row.serverId ∧ snapshot.fencingToken = row.fencingToken
  settled : ∀ row ∈ db.serverInstances, row.terminatedAt.isSome → row.dataPreparedAt.isSome →
    row.resultSnapshotId.isSome

-- The enrolment token of a compute at the provider is given up for a certificate only.
def Enrolled (row : ComputeRow) : Prop :=
  row.provider = .akamai → row.enrollmentToken = none → row.agentCsrPem.isSome

structure Allocation (db : Database) : Prop where
  owner : ∀ compute ∈ db.computeInstances, ∃ row ∈ db.serverInstances,
    row.id = compute.serverInstanceId ∧ (compute.terminatedAt = none → row.terminatedAt = none) ∧
      (compute.terminatedAt.isSome → row.stopRequestedAt.isSome)
  single : Table.Unique (fun row : ComputeRow => row.serverInstanceId) db.computeInstances
  checked : ∀ row ∈ db.computeInstances, row.check = true
  enrolled : ∀ row ∈ db.computeInstances, Enrolled row

structure Consistent (db : Database) : Prop where
  keyed : Keyed db
  lineage : Lineage db
  allocation : Allocation db

theorem consistent_empty : Consistent Database.empty := by
  refine ⟨⟨?_, ?_, ?_, ?_⟩, ⟨?_, ?_, ?_, ?_, ?_, ?_, ?_, ?_⟩, ⟨?_, ?_, ?_, ?_⟩⟩ <;>
    simp [Database.empty, Table.Unique]

def SamePublication (old new : ServerInstance) : Prop :=
  new.serverId = old.serverId ∧ new.fencingToken = old.fencingToken ∧
    new.resultSnapshotId = old.resultSnapshotId

theorem Published.moved {before after : List ServerInstance} {server : ServerId} {bound : Nat}
    {new : ServerInstance} (origin : ∀ new ∈ after, ∃ old ∈ before, SamePublication old new)
    (published : Published after server bound new) :
    ∃ old, Published before server bound old ∧ SamePublication old new := by
  obtain ⟨member, server_eq, below, result⟩ := published
  obtain ⟨old, present, same⟩ := origin new member
  obtain ⟨sameServer, sameToken, sameResult⟩ := same
  refine ⟨old, ⟨present, ?_, ?_, ?_⟩, sameServer, sameToken, sameResult⟩
  · rw [← sameServer, server_eq]
  · rwa [← sameToken]
  · rwa [← sameResult]

theorem LastPublished.moved {before after : List ServerInstance} {server : ServerId} {bound : Nat}
    {snapshot : Option String} (moved : Table.Moved SamePublication before after)
    (last : LastPublished before server bound snapshot) :
    LastPublished after server bound snapshot := by
  cases snapshot with
  | none =>
    intro row published
    obtain ⟨old, earlier, -⟩ := published.moved moved.origin
    exact last old earlier
  | some id =>
    obtain ⟨row, ⟨member, server_eq, below, -⟩, result, greatest⟩ := last
    obtain ⟨new, present, sameServer, sameToken, sameResult⟩ := moved.image row member
    rw [← sameResult] at result
    refine ⟨new, ⟨present, by rw [sameServer, server_eq], by rwa [sameToken], ?_⟩, result, ?_⟩
    · simp [result]
    · intro other published
      obtain ⟨old, earlier, same⟩ := published.moved moved.origin
      have bound := greatest old earlier
      rw [same.2.1, sameToken]
      exact bound

structure ServerKept (old new : ServerRow) : Prop where
  id : new.id = old.id
  name : new.name = old.name
  token : new.nextFencingToken = old.nextFencingToken
  snapshot : new.currentSnapshotId = old.currentSnapshotId

theorem ServerKept.refl (row : ServerRow) : ServerKept row row := ⟨rfl, rfl, rfl, rfl⟩

theorem Consistent.serversUpdated {db : Database} {selects : ServerRow → Bool}
    {set : ServerRow → ServerRow} (consistent : Consistent db)
    (kept : ∀ row ∈ db.servers, selects row = true → ServerKept row (set row)) :
    Consistent { db with servers := Table.update selects set db.servers } := by
  obtain ⟨keyed, lineage, allocation⟩ := consistent
  have moved := Table.update_moved ServerKept.refl kept
  refine ⟨⟨?_, ?_, keyed.instanceIds, keyed.computeIds⟩, { lineage with numbered := ?_, current := ?_ },
    ⟨allocation.owner, allocation.single, allocation.checked, allocation.enrolled⟩⟩
  · exact keyed.serverIds.update fun row member chosen => (kept row member chosen).id
  · exact keyed.serverNames.update fun row member chosen => (kept row member chosen).name
  · intro row member
    obtain ⟨server, present, named, below⟩ := lineage.numbered row member
    obtain ⟨new, stored, same⟩ := moved.image server present
    exact ⟨new, stored, same.id.trans named, by rwa [same.token]⟩
  · intro server member
    obtain ⟨old, present, same⟩ := moved.origin server member
    rw [same.id, same.token, same.snapshot]
    exact lineage.current old present

theorem Consistent.serverCreated {db : Database} {row : ServerRow} (consistent : Consistent db)
    (free : ∀ other ∈ db.servers, row.conflicts other = false)
    (unpublished : row.currentSnapshotId = none) :
    Consistent { db with servers := db.servers ++ [row] } := by
  obtain ⟨keyed, lineage, allocation⟩ := consistent
  have apart : ∀ other ∈ db.servers, other.id ≠ row.id ∧ other.name ≠ row.name := by
    intro other member
    have differs := free other member
    simp only [ServerRow.conflicts, Bool.or_eq_false_iff, decide_eq_false_iff_not] at differs
    exact ⟨Ne.symm differs.1, Ne.symm differs.2⟩
  refine ⟨⟨?_, ?_, keyed.instanceIds, keyed.computeIds⟩, { lineage with numbered := ?_, current := ?_ },
    ⟨allocation.owner, allocation.single, allocation.checked, allocation.enrolled⟩⟩
  · exact keyed.serverIds.insert fun other member => (apart other member).1
  · exact keyed.serverNames.insert fun other member => (apart other member).2
  · intro owned member
    obtain ⟨server, present, rest⟩ := lineage.numbered owned member
    exact ⟨server, List.mem_append_left _ present, rest⟩
  · intro server member
    rcases List.mem_append.mp member with present | single
    · exact lineage.current server present
    · rw [List.mem_singleton.mp single, unpublished]
      rintro owned ⟨present, owner, -, -⟩
      obtain ⟨server, stored, named, -⟩ := lineage.numbered owned present
      exact (apart server stored).1 (named.trans owner)

structure InstanceKept (computes : List ComputeRow) (old new : ServerInstance) : Prop where
  id : new.id = old.id
  publication : SamePublication old new
  source : new.sourceSnapshotId = old.sourceSnapshotId
  active : new.terminatedAt = none → old.terminatedAt = none
  stop : old.stopRequestedAt.isSome → new.stopRequestedAt.isSome
  settled : new.terminatedAt.isSome → new.dataPreparedAt.isSome →
    (old.terminatedAt.isSome ∧ old.dataPreparedAt.isSome) ∨ new.resultSnapshotId.isSome
  released : new.terminatedAt.isSome → old.terminatedAt.isSome ∨
    ∀ compute ∈ computes, compute.serverInstanceId = old.id → compute.terminatedAt.isSome

theorem InstanceKept.refl (computes : List ComputeRow) (row : ServerInstance) :
    InstanceKept computes row row where
  id := rfl
  publication := ⟨rfl, rfl, rfl⟩
  source := rfl
  active := fun active => active
  stop := fun requested => requested
  settled := fun terminated prepared => .inl ⟨terminated, prepared⟩
  released := fun terminated => .inl terminated

theorem Lineage.instancesUpdated {db : Database} {selects : ServerInstance → Bool}
    {set : ServerInstance → ServerInstance} (lineage : Lineage db)
    (kept : ∀ row ∈ db.serverInstances, selects row = true → InstanceKept db.computeInstances row (set row)) :
    Lineage { db with serverInstances := Table.update selects set db.serverInstances } := by
  have moved := Table.update_moved (InstanceKept.refl db.computeInstances) kept
  have publications : Table.Moved SamePublication db.serverInstances
      (Table.update selects set db.serverInstances) :=
    Table.update_moved (fun row => ⟨rfl, rfl, rfl⟩) fun row member chosen =>
      (kept row member chosen).publication
  constructor
  · intro row member
    obtain ⟨old, present, same⟩ := moved.origin row member
    obtain ⟨server, stored, named, below⟩ := lineage.numbered old present
    exact ⟨server, stored, by rw [same.publication.1, named], by rwa [same.publication.2.1]⟩
  · refine lineage.tokens.update fun row member chosen => ?_
    have same := (kept row member chosen).publication
    rw [same.1, same.2.1]
  · intro row member active other stored sameServer
    obtain ⟨old, present, same⟩ := moved.origin row member
    obtain ⟨older, listed, same'⟩ := moved.origin other stored
    rw [same.publication.1, same'.publication.1] at sameServer
    rw [same.publication.2.1, same'.publication.2.1]
    exact lineage.latest old present (same.active active) older listed sameServer
  · intro server member
    exact (lineage.current server member).moved publications
  · intro row member
    obtain ⟨old, present, same⟩ := moved.origin row member
    rw [same.publication.1, same.publication.2.1, same.source]
    exact (lineage.source old present).moved publications
  · intro snapshot member
    obtain ⟨row, present, named, server, token, result⟩ := lineage.snapshotInstance snapshot member
    obtain ⟨new, stored, same⟩ := moved.image row present
    exact ⟨new, stored, same.id.trans named, same.publication.1.trans server,
      same.publication.2.1.trans token, same.publication.2.2.trans result⟩
  · intro row member id result
    obtain ⟨old, present, same⟩ := moved.origin row member
    rw [same.publication.2.2] at result
    obtain ⟨snapshot, stored, rest⟩ := lineage.instanceSnapshot old present id result
    refine ⟨snapshot, stored, ?_⟩
    rw [same.id, same.publication.1, same.publication.2.1]
    exact rest
  · intro row member terminated prepared
    obtain ⟨old, present, same⟩ := moved.origin row member
    rcases same.settled terminated prepared with before | result
    · rw [same.publication.2.2]
      exact lineage.settled old present before.1 before.2
    · exact result

theorem Allocation.instancesUpdated {db : Database} {selects : ServerInstance → Bool}
    {set : ServerInstance → ServerInstance} (allocation : Allocation db)
    (kept : ∀ row ∈ db.serverInstances, selects row = true → InstanceKept db.computeInstances row (set row)) :
    Allocation { db with serverInstances := Table.update selects set db.serverInstances } := by
  refine ⟨fun compute member => ?_, allocation.single, allocation.checked, allocation.enrolled⟩
  obtain ⟨row, present, named, active, stopped⟩ := allocation.owner compute member
  obtain ⟨new, stored, same⟩ :=
    (Table.update_moved (InstanceKept.refl db.computeInstances) kept).image row present
  refine ⟨new, stored, same.id.trans named, fun running => ?_, fun gone => same.stop (stopped gone)⟩
  -- A row that terminates now has no compute left, so this one cannot be running.
  by_contra terminated
  rcases same.released (Option.isSome_iff_ne_none.mpr terminated) with before | released
  · simp [active running] at before
  · have gone := released compute member named.symm
    simp [running] at gone

theorem Consistent.instancesUpdated {db : Database} {selects : ServerInstance → Bool}
    {set : ServerInstance → ServerInstance} (consistent : Consistent db)
    (kept : ∀ row ∈ db.serverInstances, selects row = true → InstanceKept db.computeInstances row (set row)) :
    Consistent { db with serverInstances := Table.update selects set db.serverInstances } := by
  obtain ⟨keyed, lineage, allocation⟩ := consistent
  refine ⟨{ keyed with instanceIds := ?_ }, lineage.instancesUpdated kept, allocation.instancesUpdated kept⟩
  exact keyed.instanceIds.update fun row member chosen => (kept row member chosen).id

theorem hasActiveInstance_false {db : Database} {server : ServerId}
    (idle : db.hasActiveInstance server = false) :
    ∀ row ∈ db.serverInstances, row.serverId = server → row.terminatedAt.isSome := by
  intro row member owner
  have inactive := List.any_eq_false.mp idle row member
  simpa [owner, Option.isSome_iff_ne_none] using inactive

-- A row that has published nothing does not count, and neither does a higher bound then.
theorem LastPublished.insert {rows : List ServerInstance} {row : ServerInstance} {server : ServerId}
    {bound : Nat} {snapshot : Option String} (unpublished : row.resultSnapshotId = none)
    (last : LastPublished rows server bound snapshot) :
    LastPublished (rows ++ [row]) server bound snapshot := by
  have same : ∀ other bound, Published (rows ++ [row]) server bound other ↔
      Published rows server bound other := by
    intro other bound
    constructor
    · rintro ⟨member, rest⟩
      rcases List.mem_append.mp member with present | single
      · exact ⟨present, rest⟩
      · rw [List.mem_singleton.mp single, unpublished] at rest
        simp at rest
    · rintro ⟨member, rest⟩
      exact ⟨List.mem_append_left _ member, rest⟩
  cases snapshot with
  | none => exact fun other published => last other ((same other bound).mp published)
  | some id =>
    obtain ⟨other, published, result, greatest⟩ := last
    exact ⟨other, (same other bound).mpr published, result,
      fun third later => greatest third ((same third bound).mp later)⟩

theorem LastPublished.raise {rows : List ServerInstance} {server : ServerId} {bound : Nat}
    {snapshot : Option String} (none_at : ∀ row ∈ rows, row.serverId = server →
      row.fencingToken = bound → row.resultSnapshotId = none)
    (last : LastPublished rows server bound snapshot) :
    LastPublished rows server (bound + 1) snapshot := by
  have same : ∀ other, Published rows server (bound + 1) other → Published rows server bound other := by
    rintro other ⟨member, owner, below, result⟩
    refine ⟨member, owner, ?_, result⟩
    by_contra reached
    have at_bound : other.fencingToken = bound := by omega
    simp [none_at other member owner at_bound] at result
  cases snapshot with
  | none => exact fun other published => last other (same other published)
  | some id =>
    obtain ⟨other, ⟨member, owner, below, some_result⟩, result, greatest⟩ := last
    exact ⟨other, ⟨member, owner, by omega, some_result⟩, result,
      fun third later => greatest third (same third later)⟩

theorem Lineage.instanceInserted {db : Database} {server : ServerRow} {row : ServerInstance}
    (unique : Table.Unique (fun row : ServerRow => row.id) db.servers) (lineage : Lineage db)
    (member : server ∈ db.servers) (idle : db.hasActiveInstance server.id = false)
    (owner : row.serverId = server.id) (token : row.fencingToken = server.nextFencingToken)
    (source : row.sourceSnapshotId = server.currentSnapshotId)
    (unpublished : row.resultSnapshotId = none) (active : row.terminatedAt = none) :
    Lineage { db with
      serverInstances := db.serverInstances ++ [row]
      servers := Table.update (fun row => row.id = server.id)
        (fun row => { row with nextFencingToken := row.nextFencingToken + 1 }) db.servers } := by
  have below : ∀ other ∈ db.serverInstances, other.serverId = server.id →
      other.fencingToken < server.nextFencingToken := by
    intro other present sameServer
    obtain ⟨owner', stored, named, bound⟩ := lineage.numbered other present
    rwa [unique.eq_of_key stored member (named.trans sameServer)] at bound
  constructor
  · intro other present
    rcases List.mem_append.mp present with old | single
    · obtain ⟨owner', stored, named, bound⟩ := lineage.numbered other old
      refine ⟨_, Table.update_mem stored, ?_⟩
      split_ifs with chosen
      · exact ⟨named, by dsimp only; omega⟩
      · exact ⟨named, bound⟩
    · rw [List.mem_singleton.mp single]
      refine ⟨_, Table.update_mem member, ?_⟩
      rw [if_pos (by simp)]
      exact ⟨owner.symm, by dsimp only; omega⟩
  · refine lineage.tokens.insert fun other present same => ?_
    simp only [owner, token, Prod.mk.injEq] at same
    have bound := below other present same.1
    omega
  · intro first stored running other present sameServer
    rcases List.mem_append.mp stored with old | single
    · rcases List.mem_append.mp present with old' | single'
      · exact lineage.latest first old running other old' sameServer
      · -- The server has no active instance but the new one.
        rw [List.mem_singleton.mp single', owner] at sameServer
        have gone := hasActiveInstance_false idle first old sameServer.symm
        simp [running] at gone
    · rw [List.mem_singleton.mp single] at sameServer ⊢
      rcases List.mem_append.mp present with old' | single'
      · have bound := below other old' (sameServer.trans owner)
        omega
      · rw [List.mem_singleton.mp single']
  · intro updated stored
    obtain ⟨old, present, ⟨chosen, rfl⟩ | ⟨-, rfl⟩⟩ := Table.mem_update.mp stored
    · have same : old = server := unique.eq_of_key present member (by simpa using chosen)
      subst same
      refine ((lineage.current old present).insert unpublished).raise fun other listed owned at_bound => ?_
      rcases List.mem_append.mp listed with old' | single'
      · have bound := below other old' owned
        omega
      · rw [List.mem_singleton.mp single', unpublished]
    · exact (lineage.current updated present).insert unpublished
  · intro other present
    rcases List.mem_append.mp present with old | single
    · exact (lineage.source other old).insert unpublished
    · rw [List.mem_singleton.mp single, owner, token, source]
      exact (lineage.current server member).insert unpublished
  · intro snapshot stored
    obtain ⟨other, present, rest⟩ := lineage.snapshotInstance snapshot stored
    exact ⟨other, List.mem_append_left _ present, rest⟩
  · intro other present id result
    rcases List.mem_append.mp present with old | single
    · exact lineage.instanceSnapshot other old id result
    · rw [List.mem_singleton.mp single, unpublished] at result
      cases result
  · intro other present terminated prepared
    rcases List.mem_append.mp present with old | single
    · exact lineage.settled other old terminated prepared
    · rw [List.mem_singleton.mp single, active] at terminated
      cases terminated

theorem Consistent.instanceInserted {db : Database} {server : ServerRow} {row : ServerInstance}
    (consistent : Consistent db) (member : server ∈ db.servers)
    (idle : db.hasActiveInstance server.id = false)
    (owner : row.serverId = server.id) (token : row.fencingToken = server.nextFencingToken)
    (source : row.sourceSnapshotId = server.currentSnapshotId)
    (unpublished : row.resultSnapshotId = none) (active : row.terminatedAt = none)
    (free : ∀ other ∈ db.serverInstances, instanceConflicts row other = false) :
    Consistent { db with
      serverInstances := db.serverInstances ++ [row]
      servers := Table.update (fun row => row.id = server.id)
        (fun row => { row with nextFencingToken := row.nextFencingToken + 1 }) db.servers } := by
  obtain ⟨keyed, lineage, allocation⟩ := consistent
  refine ⟨⟨?_, ?_, ?_, keyed.computeIds⟩, lineage.instanceInserted keyed.serverIds member idle owner
    token source unpublished active, ⟨?_, allocation.single, allocation.checked, allocation.enrolled⟩⟩
  · exact keyed.serverIds.update fun _ _ _ => rfl
  · exact keyed.serverNames.update fun _ _ _ => rfl
  · refine keyed.instanceIds.insert fun other present same => ?_
    have apart := free other present
    simp [instanceConflicts, same] at apart
  · intro compute present
    obtain ⟨old, stored, rest⟩ := allocation.owner compute present
    exact ⟨old, List.mem_append_left _ stored, rest⟩

section Publishing

open SnapshotRepository

variable {db : Database} {found : ServerInstance} {token : Nat} {snapshotId : String}
  {committedAt : UnixTimestampMillis} {instances : List ServerInstance}

theorem Publishing.origin (publishing : Publishing db found token snapshotId committedAt instances)
    (unique : Table.Unique (fun row : ServerInstance => row.id) db.serverInstances)
    {new : ServerInstance} (present : new ∈ instances) :
    new = markPublished snapshotId committedAt found ∨ new ∈ db.serverInstances ∧ new.id ≠ found.id := by
  rw [publishing.updated] at present
  obtain ⟨old, stored, ⟨chosen, rfl⟩ | ⟨spared, rfl⟩⟩ := Table.mem_update.mp present
  · simp only [isPublisher, Bool.and_eq_true, decide_eq_true_eq] at chosen
    rw [unique.eq_of_key stored publishing.member chosen.1.1]
    exact .inl rfl
  · refine .inr ⟨stored, fun same => ?_⟩
    rw [unique.eq_of_key stored publishing.member same] at spared
    simp [isPublisher, publishing.active, publishing.token_eq] at spared

theorem Publishing.image_found (publishing : Publishing db found token snapshotId committedAt instances) :
    markPublished snapshotId committedAt found ∈ instances := by
  have stored : (if isPublisher found.id token found then markPublished snapshotId committedAt found
      else found) ∈ Table.update (isPublisher found.id token) (markPublished snapshotId committedAt)
        db.serverInstances := Table.update_mem publishing.member
  rw [if_pos (by simp [isPublisher, publishing.active, publishing.token_eq])] at stored
  rwa [publishing.updated]

theorem Publishing.image_other
    (publishing : Publishing db found token snapshotId committedAt instances) {old : ServerInstance}
    (present : old ∈ db.serverInstances) (other : old.id ≠ found.id) : old ∈ instances := by
  rw [publishing.updated]
  refine Table.mem_update.mpr ⟨old, present, .inr ⟨?_, rfl⟩⟩
  simp [isPublisher, other]

theorem Publishing.server (publishing : Publishing db found token snapshotId committedAt instances)
    (unique : Table.Unique (fun row : ServerRow => row.id) db.servers) {row : ServerRow}
    (present : row ∈ db.servers) :
    mayPublish found token instances row = true ↔ row.id = found.serverId := by
  constructor
  · intro chosen
    simp only [mayPublish, Bool.and_eq_true, decide_eq_true_eq] at chosen
    exact chosen.1
  · intro named
    obtain ⟨other, stored, chosen⟩ := Table.affected_pos.mp (by rw [publishing.one]; exact Nat.one_pos)
    have sameId : other.id = found.serverId := by
      simp only [mayPublish, Bool.and_eq_true, decide_eq_true_eq] at chosen
      exact chosen.1
    rwa [unique.eq_of_key present stored (named.trans sameId.symm)]

theorem Publishing.last_below (publishing : Publishing db found token snapshotId committedAt instances)
    (unique : Table.Unique (fun row : ServerInstance => row.id) db.serverInstances)
    {server : ServerId} {bound : Nat} {snapshot : Option String}
    (apart : server = found.serverId → bound ≤ found.fencingToken)
    (last : LastPublished db.serverInstances server bound snapshot) :
    LastPublished instances server bound snapshot := by
  have same : ∀ row, Published instances server bound row → Published db.serverInstances server bound row := by
    rintro row ⟨member, owner, below, result⟩
    rcases publishing.origin unique member with rfl | ⟨present, -⟩
    · have bounded := apart owner.symm
      simp only [markPublished] at below
      omega
    · exact ⟨present, owner, below, result⟩
  cases snapshot with
  | none => exact fun row published => last row (same row published)
  | some id =>
    obtain ⟨row, ⟨member, owner, below, some_result⟩, result, greatest⟩ := last
    have other : row.id ≠ found.id := by
      intro clash
      rw [unique.eq_of_key member publishing.member clash, publishing.unpublished] at result
      cases result
    exact ⟨row, ⟨publishing.image_other member other, owner, below, some_result⟩, result,
      fun third later => greatest third (same third later)⟩

theorem Lineage.published (lineage : Lineage db) (keyed : Keyed db)
    (publishing : Publishing db found token snapshotId committedAt instances) :
    Lineage (publishedDatabase db found token snapshotId committedAt instances) := by
  have unique := keyed.instanceIds
  have greatest := lineage.latest found publishing.member publishing.active
  constructor
  · intro row member
    obtain ⟨old, present, owner, sameToken⟩ : ∃ old ∈ db.serverInstances,
        old.serverId = row.serverId ∧ old.fencingToken = row.fencingToken := by
      rcases publishing.origin unique member with rfl | ⟨present, -⟩
      · exact ⟨found, publishing.member, rfl, rfl⟩
      · exact ⟨row, present, rfl, rfl⟩
    obtain ⟨server, stored, named, below⟩ := lineage.numbered old present
    refine ⟨_, Table.update_mem stored, ?_⟩
    rw [← owner, ← sameToken]
    split_ifs <;> exact ⟨named, below⟩
  · simp only [publishedDatabase, publishing.updated]
    exact lineage.tokens.update fun _ _ _ => rfl
  · intro row member running other stored sameServer
    have origin : ∀ new ∈ instances, ∃ old ∈ db.serverInstances, old.serverId = new.serverId ∧
        old.fencingToken = new.fencingToken ∧ old.terminatedAt = new.terminatedAt := by
      intro new present
      rcases publishing.origin unique present with rfl | ⟨present, -⟩
      · exact ⟨found, publishing.member, rfl, rfl, rfl⟩
      · exact ⟨new, present, rfl, rfl, rfl⟩
    obtain ⟨old, present, owner, sameToken, sameEnd⟩ := origin row member
    obtain ⟨old', present', owner', sameToken', -⟩ := origin other stored
    rw [← sameToken, ← sameToken']
    exact lineage.latest old present (sameEnd.trans running) old' present'
      (owner'.trans (sameServer.trans owner.symm))
  · intro server member
    obtain ⟨old, present, ⟨chosen, rfl⟩ | ⟨spared, rfl⟩⟩ := Table.mem_update.mp member
    · -- The publisher has the server's greatest token, so its result is the last one.
      have named := (publishing.server keyed.serverIds present).mp chosen
      obtain ⟨owner, stored, ownerNamed, below⟩ := lineage.numbered found publishing.member
      rw [keyed.serverIds.eq_of_key stored present (ownerNamed.trans named.symm)] at below
      refine ⟨_, ⟨publishing.image_found, named.symm, below, rfl⟩, rfl, ?_⟩
      rintro other ⟨listed, owned, -, -⟩
      rcases publishing.origin unique listed with rfl | ⟨present', -⟩
      · exact le_refl _
      · exact greatest other present' (owned.trans named)
    · refine publishing.last_below unique (fun clash => ?_) (lineage.current server present)
      rw [(publishing.server keyed.serverIds present).mpr clash] at spared
      cases spared
  · intro row member
    rcases publishing.origin unique member with rfl | ⟨present, -⟩
    · exact publishing.last_below unique (fun _ => le_refl _) (lineage.source found publishing.member)
    · exact publishing.last_below unique (fun clash => greatest row present clash) (lineage.source row present)
  · intro snapshot member
    rcases List.mem_append.mp member with old | single
    · obtain ⟨row, present, named, server, sameToken, result⟩ := lineage.snapshotInstance snapshot old
      refine ⟨row, publishing.image_other present fun clash => ?_, named, server, sameToken, result⟩
      rw [unique.eq_of_key present publishing.member clash, publishing.unpublished] at result
      cases result
    · rw [List.mem_singleton.mp single]
      exact ⟨_, publishing.image_found, rfl, rfl, publishing.token_eq, rfl⟩
  · intro row member id result
    rcases publishing.origin unique member with rfl | ⟨present, -⟩
    · injection result with same
      subst same
      exact ⟨_, List.mem_append_right _ (List.mem_singleton.mpr rfl), rfl, rfl, rfl, publishing.token_eq.symm⟩
    · obtain ⟨snapshot, stored, rest⟩ := lineage.instanceSnapshot row present id result
      exact ⟨snapshot, List.mem_append_left _ stored, rest⟩
  · intro row member terminated prepared
    rcases publishing.origin unique member with rfl | ⟨present, -⟩
    · rfl
    · exact lineage.settled row present terminated prepared

theorem Consistent.published (consistent : Consistent db)
    (publishing : Publishing db found token snapshotId committedAt instances) :
    Consistent (publishedDatabase db found token snapshotId committedAt instances) := by
  obtain ⟨keyed, lineage, allocation⟩ := consistent
  refine ⟨⟨?_, ?_, ?_, keyed.computeIds⟩, lineage.published keyed publishing,
    ⟨?_, allocation.single, allocation.checked, allocation.enrolled⟩⟩
  · exact keyed.serverIds.update fun _ _ _ => rfl
  · exact keyed.serverNames.update fun _ _ _ => rfl
  · simp only [publishedDatabase, publishing.updated]
    exact keyed.instanceIds.update fun _ _ _ => rfl
  · intro compute member
    obtain ⟨row, present, named, rest⟩ := allocation.owner compute member
    by_cases publisher : row.id = found.id
    · rw [keyed.instanceIds.eq_of_key present publishing.member publisher] at named rest
      exact ⟨_, publishing.image_found, named, rest⟩
    · exact ⟨row, publishing.image_other present publisher, named, rest⟩

end Publishing

structure ComputeKept (instances : List ServerInstance) (old new : ComputeRow) : Prop where
  id : new.id = old.id
  owner : new.serverInstanceId = old.serverInstanceId
  active : new.terminatedAt = none → old.terminatedAt = none
  stopped : new.terminatedAt.isSome → old.terminatedAt.isSome ∨
    ∀ row ∈ instances, row.id = old.serverInstanceId → row.stopRequestedAt.isSome

theorem ComputeKept.refl (instances : List ServerInstance) (row : ComputeRow) : ComputeKept instances row row :=
  ⟨rfl, rfl, fun active => active, fun terminated => .inl terminated⟩

theorem Consistent.computesUpdated {db : Database} {selects : ComputeRow → Bool}
    {set : ComputeRow → ComputeRow} (consistent : Consistent db)
    (kept : ∀ row ∈ db.computeInstances, selects row = true → ComputeKept db.serverInstances row (set row))
    (checked : ∀ row ∈ db.computeInstances, selects row = true → (set row).check = true)
    (enrolled : ∀ row ∈ db.computeInstances, selects row = true → Enrolled (set row)) :
    Consistent { db with computeInstances := Table.update selects set db.computeInstances } := by
  obtain ⟨keyed, lineage, allocation⟩ := consistent
  refine ⟨{ keyed with computeIds := ?_ }, ⟨lineage.numbered, lineage.tokens, lineage.latest,
    lineage.current, lineage.source, lineage.snapshotInstance, lineage.instanceSnapshot,
    lineage.settled⟩, ⟨?_, ?_, ?_, ?_⟩⟩
  · exact keyed.computeIds.update fun row member chosen => (kept row member chosen).id
  · intro new member
    obtain ⟨old, present, same⟩ :=
      (Table.update_moved (ComputeKept.refl db.serverInstances) kept).origin new member
    obtain ⟨row, stored, named, active, stopped⟩ := allocation.owner old present
    refine ⟨row, stored, named.trans same.owner.symm, fun running => active (same.active running), ?_⟩
    intro gone
    rcases same.stopped gone with before | requested
    · exact stopped before
    · exact requested row stored named
  · exact allocation.single.update fun row member chosen => (kept row member chosen).owner
  · exact Table.forall_update allocation.checked fun row member chosen _ => checked row member chosen
  · exact Table.forall_update allocation.enrolled fun row member chosen _ => enrolled row member chosen

theorem Consistent.computeInserted {db : Database} {row : ComputeRow} (consistent : Consistent db)
    (free : ∀ other ∈ db.computeInstances, row.conflicts other = false)
    (first : ∀ other ∈ db.computeInstances, other.serverInstanceId ≠ row.serverInstanceId)
    (owner : ∃ found ∈ db.serverInstances, found.id = row.serverInstanceId ∧ found.terminatedAt = none)
    (active : row.terminatedAt = none) (check : row.check = true) (enrolled : Enrolled row) :
    Consistent { db with computeInstances := db.computeInstances ++ [row] } := by
  obtain ⟨keyed, lineage, allocation⟩ := consistent
  refine ⟨{ keyed with computeIds := ?_ }, ⟨lineage.numbered, lineage.tokens, lineage.latest,
    lineage.current, lineage.source, lineage.snapshotInstance, lineage.instanceSnapshot,
    lineage.settled⟩, ⟨?_, ?_, ?_, ?_⟩⟩
  · refine keyed.computeIds.insert fun other present same => ?_
    have apart := free other present
    simp [ComputeRow.conflicts, same] at apart
  · intro compute member
    rcases List.mem_append.mp member with old | single
    · exact allocation.owner compute old
    · rw [List.mem_singleton.mp single]
      obtain ⟨found, present, named, running⟩ := owner
      exact ⟨found, present, named, fun _ => running, fun gone => by simp [active] at gone⟩
  · exact allocation.single.insert first
  · intro compute member
    rcases List.mem_append.mp member with old | single
    · exact allocation.checked compute old
    · rw [List.mem_singleton.mp single]
      exact check
  · intro compute member
    rcases List.mem_append.mp member with old | single
    · exact allocation.enrolled compute old
    · rw [List.mem_singleton.mp single]
      exact enrolled

end McServer.Store
