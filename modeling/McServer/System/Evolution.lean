import McServer.System.Effects
import Mathlib.Data.List.Chain

set_option autoImplicit false

namespace McServer.ControlPlane

open Domain Store

def definition (server : Server) : DesiredState × ServerSpec × Option UnixTimestampMillis :=
  (server.desiredState, server.spec, server.archivedAt)

-- One statement: the definition changes with the generation or not at all.
structure ServerStep (before after : Database) (old new : ServerRow) : Prop where
  id : new.id = old.id
  generation : new.generation = old.generation ∧ definition new.toServer = definition old.toServer ∨
    new.generation = old.generation + 1
  snapshot : new.currentSnapshotId = old.currentSnapshotId ∨
    new.generation = old.generation ∧ ∃ snapshot ∈ after.snapshots, snapshot ∉ before.snapshots ∧
      snapshot.serverId = old.id ∧ new.currentSnapshotId = some snapshot.id

def Advance (before after : Database) : Prop :=
  ∀ old ∈ before.servers, ∃ new ∈ after.servers, ServerStep before after old new

theorem Advance.refl (db : Database) : Advance db db :=
  fun old member => ⟨old, member, rfl, .inl ⟨rfl, rfl⟩, .inl rfl⟩

structure ServerEvolved (before after : Database) (old new : ServerRow) : Prop where
  id : new.id = old.id
  name : new.name = old.name
  generation : old.generation ≤ new.generation
  unchanged : new.generation = old.generation → definition new.toServer = definition old.toServer
  idle : new.generation = old.generation → old.desiredState = .stopped →
    before.hasActiveInstance old.id = false → after.hasActiveInstance old.id = false

structure InstanceEvolved (old new : ServerInstance) : Prop where
  id : new.id = old.id
  server : new.serverId = old.serverId
  spec : new.resolvedSpec = old.resolvedSpec
  token : new.fencingToken = old.fencingToken
  source : new.sourceSnapshotId = old.sourceSnapshotId
  prepared : old.dataPreparedAt.isSome → new.dataPreparedAt.isSome
  result : old.resultSnapshotId.isSome → new.resultSnapshotId = old.resultSnapshotId
  stop : old.stopRequestedAt.isSome → new.stopRequestedAt.isSome
  terminated : old.terminatedAt.isSome → new = old

structure ComputeEvolved (old new : ComputeRow) : Prop where
  id : new.id = old.id
  owner : new.serverInstanceId = old.serverInstanceId
  provider : new.provider = old.provider
  connectionToken : new.connectionToken = old.connectionToken
  enrollmentToken : new.enrollmentToken = old.enrollmentToken ∨ new.enrollmentToken = none
  certificate : old.agentCsrPem.isSome → new.agentCsrPem = old.agentCsrPem ∧
    new.agentCertificateChainPem = old.agentCertificateChainPem ∧
    new.agentCertificateDer = old.agentCertificateDer ∧
    new.agentCertificateExpiresAt = old.agentCertificateExpiresAt
  terminated : old.terminatedAt.isSome → new = old

structure Evolved (before after : Database) : Prop where
  servers : ∀ old ∈ before.servers, ∃ new ∈ after.servers, ServerEvolved before after old new
  instances : ∀ old ∈ before.serverInstances, ∃ new ∈ after.serverInstances, InstanceEvolved old new
  computes : ∀ old ∈ before.computeInstances, ∃ new ∈ after.computeInstances, ComputeEvolved old new

theorem ServerEvolved.refl (db : Database) (row : ServerRow) : ServerEvolved db db row row :=
  ⟨rfl, rfl, le_refl _, fun _ => rfl, fun _ _ idle => idle⟩

theorem InstanceEvolved.refl (row : ServerInstance) : InstanceEvolved row row :=
  ⟨rfl, rfl, rfl, rfl, rfl, fun prepared => prepared, fun _ => rfl, fun requested => requested, fun _ => rfl⟩

theorem ComputeEvolved.refl (row : ComputeRow) : ComputeEvolved row row :=
  ⟨rfl, rfl, rfl, rfl, .inl rfl, fun _ => ⟨rfl, rfl, rfl, rfl⟩, fun _ => rfl⟩

theorem Evolved.refl (db : Database) : Evolved db db where
  servers old member := ⟨old, member, ServerEvolved.refl db old⟩
  instances old member := ⟨old, member, InstanceEvolved.refl old⟩
  computes old member := ⟨old, member, ComputeEvolved.refl old⟩

theorem ServerEvolved.trans {first second third : Database} {old middle new : ServerRow}
    (left : ServerEvolved first second old middle) (right : ServerEvolved second third middle new) :
    ServerEvolved first third old new := by
  have lower := left.generation
  have upper := right.generation
  have between : new.generation = old.generation →
      middle.generation = old.generation ∧ new.generation = middle.generation := by omega
  refine ⟨right.id.trans left.id, right.name.trans left.name, by omega, fun same => ?_,
    fun same stopped idle => ?_⟩
  · obtain ⟨before, after⟩ := between same
    exact (right.unchanged after).trans (left.unchanged before)
  · obtain ⟨before, after⟩ := between same
    have kept : middle.desiredState = .stopped := by
      have columns := left.unchanged before
      simp only [definition, Prod.mk.injEq] at columns
      rw [columns.1, stopped]
    have free := left.idle before stopped idle
    rw [← left.id] at free ⊢
    exact right.idle after kept free

theorem InstanceEvolved.trans {old middle new : ServerInstance} (left : InstanceEvolved old middle)
    (right : InstanceEvolved middle new) : InstanceEvolved old new where
  id := right.id.trans left.id
  server := right.server.trans left.server
  spec := right.spec.trans left.spec
  token := right.token.trans left.token
  source := right.source.trans left.source
  prepared prepared := right.prepared (left.prepared prepared)
  result published := by
    have same := left.result published
    rw [right.result (by rwa [same]), same]
  stop requested := right.stop (left.stop requested)
  terminated gone := by
    have same := left.terminated gone
    rw [right.terminated (by rwa [same]), same]

theorem ComputeEvolved.trans {old middle new : ComputeRow} (left : ComputeEvolved old middle)
    (right : ComputeEvolved middle new) : ComputeEvolved old new where
  id := right.id.trans left.id
  owner := right.owner.trans left.owner
  provider := right.provider.trans left.provider
  connectionToken := right.connectionToken.trans left.connectionToken
  enrollmentToken := by
    rcases right.enrollmentToken with kept | cleared
    · rw [kept]
      exact left.enrollmentToken
    · exact .inr cleared
  certificate recorded := by
    obtain ⟨csr, chain, der, expires⟩ := left.certificate recorded
    obtain ⟨csr', chain', der', expires'⟩ := right.certificate (by rwa [csr])
    exact ⟨csr'.trans csr, chain'.trans chain, der'.trans der, expires'.trans expires⟩
  terminated gone := by
    have same := left.terminated gone
    rw [right.terminated (by rwa [same]), same]

theorem Evolved.trans {first second third : Database} (left : Evolved first second)
    (right : Evolved second third) : Evolved first third := by
  constructor
  · intro old member
    obtain ⟨middle, present, before⟩ := left.servers old member
    obtain ⟨new, stored, after⟩ := right.servers middle present
    exact ⟨new, stored, before.trans after⟩
  · intro old member
    obtain ⟨middle, present, before⟩ := left.instances old member
    obtain ⟨new, stored, after⟩ := right.instances middle present
    exact ⟨new, stored, before.trans after⟩
  · intro old member
    obtain ⟨middle, present, before⟩ := left.computes old member
    obtain ⟨new, stored, after⟩ := right.computes middle present
    exact ⟨new, stored, before.trans after⟩

section Steps

variable {op : DbOp} {db after : Database}

theorem InstanceWrite.evolved {old new : ServerInstance} (write : InstanceWrite op db old new) :
    InstanceEvolved old new :=
  ⟨write.id, write.publication.1, write.spec, write.publication.2.1, write.source, write.keepsData,
    fun _ => write.publication.2.2, write.stop, fun gone => by simp [write.running] at gone⟩

theorem ComputeWrite.evolved {old new : ComputeRow} (write : ComputeWrite op db old new) :
    ComputeEvolved old new :=
  ⟨write.id, write.owner, write.provider, write.connectionToken, write.enrollmentToken.imp_right And.left,
    write.certificate, fun gone => by simp [write.running] at gone⟩

theorem idle_after_update {selects : ServerInstance → Bool} {set : ServerInstance → ServerInstance}
    {rows : List ServerInstance} {server : ServerId}
    (kept : ∀ row ∈ rows, selects row = true →
      (set row).serverId = row.serverId ∧ ((set row).terminatedAt = none → row.terminatedAt = none))
    (idle : (rows.any fun row => row.serverId = server && row.terminatedAt.isNone) = false) :
    ((Table.update selects set rows).any fun row =>
      row.serverId = server && row.terminatedAt.isNone) = false := by
  rw [List.any_eq_false] at idle ⊢
  intro new member
  obtain ⟨old, present, ⟨chosen, rfl⟩ | ⟨-, rfl⟩⟩ := Table.mem_update.mp member
  · have before := idle old present
    obtain ⟨sameServer, active⟩ := kept old present chosen
    simp only [Bool.and_eq_true, decide_eq_true_eq, Option.isNone_iff_eq_none, not_and] at before ⊢
    intro owned running
    exact before (sameServer.symm.trans owned) (active running)
  · exact idle new present

theorem evolved_of_servers {servers : List ServerRow}
    (moved : ∀ old ∈ db.servers, ∃ new ∈ servers, new.id = old.id ∧ new.name = old.name ∧
      (new.generation = old.generation ∧ definition new.toServer = definition old.toServer ∨
        new.generation = old.generation + 1)) :
    Evolved db { db with servers } := by
  refine ⟨fun old member => ?_, fun old member => ⟨old, member, InstanceEvolved.refl old⟩,
    fun old member => ⟨old, member, ComputeEvolved.refl old⟩⟩
  obtain ⟨new, stored, id, name, step⟩ := moved old member
  refine ⟨new, stored, id, name, ?_, fun same => ?_, fun _ _ idle => idle⟩
  · omega
  · rcases step with kept | raised
    · exact kept.2
    · omega

theorem evolved_of_instances {instances : List ServerInstance}
    (moved : ∀ old ∈ db.serverInstances, ∃ new ∈ instances, InstanceEvolved old new)
    (idle : ∀ server, db.hasActiveInstance server = false →
      ({ db with serverInstances := instances } : Database).hasActiveInstance server = false) :
    Evolved db { db with serverInstances := instances } :=
  ⟨fun old member => ⟨old, member, rfl, rfl, le_refl _, fun _ => rfl, fun _ _ free => idle old.id free⟩,
    moved, fun old member => ⟨old, member, ComputeEvolved.refl old⟩⟩

theorem evolved_of_computes {computes : List ComputeRow}
    (moved : ∀ old ∈ db.computeInstances, ∃ new ∈ computes, ComputeEvolved old new) :
    Evolved db { db with computeInstances := computes } :=
  ⟨fun old member => ⟨old, member, rfl, rfl, le_refl _, fun _ => rfl, fun _ _ free => free⟩,
    fun old member => ⟨old, member, InstanceEvolved.refl old⟩, moved⟩

open SnapshotRepository in
theorem evolved_of_publishing {found : ServerInstance} {token : Nat} {snapshotId : String}
    {committedAt : UnixTimestampMillis} {instances : List ServerInstance} (keyed : Keyed db)
    (publishing : Publishing db found token snapshotId committedAt instances) :
    Evolved db (publishedDatabase db found token snapshotId committedAt instances) := by
  refine ⟨fun old member => ⟨_, Table.update_mem member, ?_⟩, fun old member => ?_,
    fun old member => ⟨old, member, ComputeEvolved.refl old⟩⟩
  · have idle : ∀ server, db.hasActiveInstance server = false →
        (publishedDatabase db found token snapshotId committedAt instances).hasActiveInstance server
          = false := by
      intro server free
      simp only [Database.hasActiveInstance, publishedDatabase, publishing.updated]
      exact idle_after_update (fun _ _ _ => ⟨rfl, fun running => running⟩) free
    split_ifs
    · exact ⟨rfl, rfl, le_refl _, fun _ => rfl, fun _ _ free => idle old.id free⟩
    · exact ⟨rfl, rfl, le_refl _, fun _ => rfl, fun _ _ free => idle old.id free⟩
  · by_cases publisher : old.id = found.id
    · rw [keyed.instanceIds.eq_of_key member publishing.member publisher]
      refine ⟨_, publishing.image_found, rfl, rfl, rfl, rfl, rfl, fun prepared => prepared, fun published => ?_,
        fun requested => requested, fun gone => ?_⟩
      · simp [publishing.unpublished] at published
      · simp [publishing.active] at gone
    · exact ⟨old, publishing.image_other member publisher, InstanceEvolved.refl old⟩

theorem Effect.evolved (effect : Effect op db after) (keyed : Keyed db) : Evolved db after := by
  cases effect with
  | unchanged => exact Evolved.refl db
  | serverCreated issued stored free =>
    exact evolved_of_servers fun old member => ⟨old, List.mem_append_left _ member, rfl, rfl, .inl ⟨rfl, rfl⟩⟩
  | serversUpdated writes =>
    refine evolved_of_servers fun old member => ⟨_, Table.update_mem member, ?_⟩
    split_ifs with chosen
    · have write := writes old member chosen
      exact ⟨write.id, write.name, .inr write.generation⟩
    · exact ⟨rfl, rfl, .inl ⟨rfl, rfl⟩⟩
  | @instanceInserted server row member wanted idle owner spec token source unprepared unpublished
      unstopped active free =>
    refine ⟨fun old present => ⟨_, Table.update_mem present, ?_⟩,
      fun old present => ⟨old, List.mem_append_left _ present, InstanceEvolved.refl old⟩,
      fun old present => ⟨old, present, ComputeEvolved.refl old⟩⟩
    -- The row is added for a server that is to run, so a stopped one stays without.
    have unaffected : old.desiredState = .stopped → db.hasActiveInstance old.id = false →
        ({ db with serverInstances := db.serverInstances ++ [row] } : Database).hasActiveInstance old.id
          = false := by
      intro stopped free
      simp only [Database.hasActiveInstance, List.any_append, Bool.or_eq_false_iff]
      refine ⟨free, ?_⟩
      have other : row.serverId ≠ old.id := by
        intro clash
        have same := keyed.serverIds.eq_of_key member present (owner.symm.trans clash)
        rw [same, stopped] at wanted
        cases wanted
      simp [other]
    split_ifs
    · exact ⟨rfl, rfl, le_refl _, fun _ => rfl, fun _ => unaffected⟩
    · exact ⟨rfl, rfl, le_refl _, fun _ => rfl, fun _ => unaffected⟩
  | instancesUpdated writes =>
    refine evolved_of_instances (fun old member => ⟨_, Table.update_mem member, ?_⟩) fun server =>
      idle_after_update fun row member chosen => ?_
    · split_ifs with chosen
      · exact (writes old member chosen).evolved
      · exact InstanceEvolved.refl old
    · have write := writes row member chosen
      exact ⟨write.publication.1, write.active⟩
  | published issued done publishing => exact evolved_of_publishing keyed publishing
  | computeInserted active check free enrolled first owner =>
    exact evolved_of_computes fun old member => ⟨old, List.mem_append_left _ member, ComputeEvolved.refl old⟩
  | computesUpdated writes =>
    refine evolved_of_computes fun old member => ⟨_, Table.update_mem member, ?_⟩
    split_ifs with chosen
    · exact (writes old member chosen).evolved
    · exact ComputeEvolved.refl old

open SnapshotRepository in
theorem Effect.advance (effect : Effect op db after) (consistent : Consistent db) : Advance db after := by
  cases effect with
  | unchanged => exact Advance.refl db
  | serverCreated issued stored free =>
    exact fun old member => ⟨old, List.mem_append_left _ member, rfl, .inl ⟨rfl, rfl⟩, .inl rfl⟩
  | serversUpdated writes =>
    refine fun old member => ⟨_, Table.update_mem member, ?_⟩
    split_ifs with chosen
    · have write := writes old member chosen
      exact ⟨write.id, .inr write.generation, .inl write.snapshot⟩
    · exact ⟨rfl, .inl ⟨rfl, rfl⟩, .inl rfl⟩
  | instanceInserted =>
    refine fun old member => ⟨_, Table.update_mem member, ?_⟩
    split_ifs <;> exact ⟨rfl, .inl ⟨rfl, rfl⟩, .inl rfl⟩
  | instancesUpdated | computeInserted | computesUpdated =>
    exact fun old member => ⟨old, member, rfl, .inl ⟨rfl, rfl⟩, .inl rfl⟩
  | @published found token snapshotId committedAt now instances issued done publishing =>
    refine fun old member => ⟨_, Table.update_mem member, ?_⟩
    split_ifs with chosen
    · have named := (publishing.server consistent.keyed.serverIds member).mp chosen
      refine ⟨rfl, .inl ⟨rfl, rfl⟩, .inr ⟨rfl, _, List.mem_append_right _ (List.mem_singleton.mpr rfl),
        fun present => ?_, named.symm, rfl⟩⟩
      -- A row for the publisher would mean that it has published before.
      obtain ⟨row, stored, same, -, -, result⟩ := consistent.lineage.snapshotInstance _ present
      rw [consistent.keyed.instanceIds.eq_of_key stored publishing.member same,
        publishing.unpublished] at result
      cases result
    · exact ⟨rfl, .inl ⟨rfl, rfl⟩, .inl rfl⟩

structure InstanceStep (op : DbOp) (db : Database) (old new : ServerInstance) : Prop where
  id : new.id = old.id
  server : new.serverId = old.serverId
  spec : new.resolvedSpec = old.resolvedSpec
  prepared : new.dataPreparedAt.isSome → old.dataPreparedAt.isSome ∨ ∃ now, op = .markDataPrepared old.id now
  stop : old.stopRequestedAt.isSome → new.stopRequestedAt.isSome
  active : new.terminatedAt = none → old.terminatedAt = none
  result : new.resultSnapshotId = old.resultSnapshotId ∨ ∃ token snapshotId now,
    op = .commitSnapshot old.id token snapshotId now ∧ new.resultSnapshotId = some snapshotId ∧
      (SnapshotRepository.commit old.id token snapshotId now db).1 = .ok true

theorem InstanceStep.refl (op : DbOp) (db : Database) (row : ServerInstance) : InstanceStep op db row row :=
  ⟨rfl, rfl, rfl, fun prepared => .inl prepared, fun stop => stop, fun active => active, .inl rfl⟩

structure InstanceCreated (db : Database) (new : ServerInstance) : Prop where
  server : ∃ server ∈ db.servers, server.id = new.serverId ∧ new.resolvedSpec = server.spec
  unprepared : new.dataPreparedAt = none
  unpublished : new.resultSnapshotId = none

open SnapshotRepository in
theorem Effect.instance_origin (effect : Effect op db after) {new : ServerInstance}
    (member : new ∈ after.serverInstances) :
    (∃ old ∈ db.serverInstances, InstanceStep op db old new) ∨ InstanceCreated db new := by
  cases effect with
  | unchanged | serverCreated | serversUpdated | computeInserted | computesUpdated =>
    exact .inl ⟨new, member, InstanceStep.refl op db new⟩
  | @instanceInserted server row present wanted idle owner spec token source unprepared unpublished =>
    rcases List.mem_append.mp member with old | single
    · exact .inl ⟨new, old, InstanceStep.refl op db new⟩
    · rw [List.mem_singleton.mp single]
      exact .inr ⟨⟨server, present, owner.symm, spec⟩, unprepared, unpublished⟩
  | instancesUpdated writes =>
    obtain ⟨old, present, ⟨chosen, rfl⟩ | ⟨-, rfl⟩⟩ := Table.mem_update.mp member
    · have write := writes old present chosen
      exact .inl ⟨old, present, write.id, write.publication.1, write.spec, write.preparing, write.stop,
        write.active, .inl write.publication.2.2⟩
    · exact .inl ⟨new, present, InstanceStep.refl op db new⟩
  | @published found token snapshotId committedAt now instances issued done publishing =>
    simp only [publishedDatabase, publishing.updated] at member
    obtain ⟨old, present, ⟨chosen, rfl⟩ | ⟨-, rfl⟩⟩ := Table.mem_update.mp member
    · simp only [isPublisher, Bool.and_eq_true, decide_eq_true_eq] at chosen
      have named : old.id = found.id := by tauto
      refine .inl ⟨old, present, rfl, rfl, rfl, fun prepared => .inl prepared, fun stop => stop,
        fun active => active, .inr ⟨token, snapshotId, now, ?_, rfl, ?_⟩⟩
      · rw [named]
        exact issued
      · rw [named]
        exact done
    · exact .inl ⟨new, present, InstanceStep.refl op db new⟩

structure ComputeStep (op : DbOp) (old new : ComputeRow) : Prop where
  id : new.id = old.id
  owner : new.serverInstanceId = old.serverInstanceId
  provider : new.provider = old.provider
  recorded : new.providerInstanceId = old.providerInstanceId ∨
    ∃ id ipv4 now, op = .recordProviderInstance old.id id ipv4 now ∧ new.providerInstanceId = some id
  terminated : new.terminatedAt.isSome → old.terminatedAt.isSome ∨
    ∃ result message now, op = .terminateCompute old.id result message now

theorem ComputeStep.refl (op : DbOp) (row : ComputeRow) : ComputeStep op row row :=
  ⟨rfl, rfl, rfl, .inl rfl, fun gone => .inl gone⟩

structure ComputeCreated (db : Database) (new : ComputeRow) : Prop where
  fresh : ∀ old ∈ db.computeInstances, old.id ≠ new.id
  active : new.terminatedAt = none

theorem Effect.compute_origin (effect : Effect op db after) {new : ComputeRow}
    (member : new ∈ after.computeInstances) :
    (∃ old ∈ db.computeInstances, ComputeStep op old new) ∨ ComputeCreated db new := by
  cases effect with
  | unchanged | serverCreated | serversUpdated | instanceInserted | instancesUpdated | published =>
    exact .inl ⟨new, member, ComputeStep.refl op new⟩
  | @computeInserted row active check free =>
    rcases List.mem_append.mp member with old | single
    · exact .inl ⟨new, old, ComputeStep.refl op new⟩
    · rw [List.mem_singleton.mp single]
      refine .inr ⟨fun old present same => ?_, active⟩
      have apart := free old present
      simp [ComputeRow.conflicts, same] at apart
  | computesUpdated writes =>
    obtain ⟨old, present, ⟨chosen, rfl⟩ | ⟨-, rfl⟩⟩ := Table.mem_update.mp member
    · have write := writes old present chosen
      exact .inl ⟨old, present, write.id, write.owner, write.provider, write.recording,
        fun gone => .inr (write.terminating gone)⟩
    · exact .inl ⟨new, present, ComputeStep.refl op new⟩

theorem Effect.server_origin (effect : Effect op db after) {new : ServerRow} (member : new ∈ after.servers) :
    (∃ old ∈ db.servers, new.id = old.id ∧ new.name = old.name ∧ (new.spec = old.spec ∨
      ∃ server previous, op = .updateSpec server previous ∧ server.id = old.id ∧
        new.spec = server.spec)) ∨ op = .createServer new.toServer := by
  cases effect with
  | unchanged | instancesUpdated | computeInserted | computesUpdated =>
    exact .inl ⟨new, member, rfl, rfl, .inl rfl⟩
  | serverCreated issued stored =>
    rcases List.mem_append.mp member with old | single
    · exact .inl ⟨new, old, rfl, rfl, .inl rfl⟩
    · rw [List.mem_singleton.mp single, stored]
      exact .inr issued
  | serversUpdated writes =>
    obtain ⟨old, present, ⟨chosen, rfl⟩ | ⟨-, rfl⟩⟩ := Table.mem_update.mp member
    · have write := writes old present chosen
      exact .inl ⟨old, present, write.id, write.name, write.spec⟩
    · exact .inl ⟨new, present, rfl, rfl, .inl rfl⟩
  | instanceInserted | published =>
    obtain ⟨old, present, ⟨chosen, rfl⟩ | ⟨-, rfl⟩⟩ := Table.mem_update.mp member
    · exact .inl ⟨old, present, rfl, rfl, .inl rfl⟩
    · exact .inl ⟨new, present, rfl, rfl, .inl rfl⟩

end Steps

structure History (db : Database) (past : List Database) : Prop where
  newest : past.head? = some db
  consistent : ∀ state ∈ past, Consistent state
  steps : past.IsChain fun newer older => Advance older newer
  evolved : past.Pairwise fun newer older => Evolved older newer

theorem History.start : History Database.empty [Database.empty] where
  newest := rfl
  consistent := by simpa using consistent_empty
  steps := List.isChain_singleton _
  evolved := List.pairwise_singleton _ _

theorem History.current {db : Database} {past : List Database} (history : History db past) : Consistent db :=
  history.consistent db (List.mem_of_mem_head? history.newest)

theorem History.since {db : Database} {past : List Database} (history : History db past)
    {state : Database} (member : state ∈ past) : Evolved state db := by
  obtain ⟨rest, rfl⟩ : ∃ rest, past = db :: rest := by
    cases past with
    | nil => cases member
    | cons head rest => exact ⟨rest, by rw [Option.some.inj history.newest]⟩
  rcases List.mem_cons.mp member with rfl | old
  · exact Evolved.refl state
  · exact (List.pairwise_cons.mp history.evolved).1 state old

theorem isChain_extend {related : Database → Database → Prop} {db after : Database}
    {past : List Database} (newest : past.head? = some db) (chain : past.IsChain related)
    (step : related after db) : (after :: past).IsChain related := by
  refine List.isChain_cons.mpr ⟨fun state head => ?_, chain⟩
  rw [newest] at head
  rw [← Option.some.inj head]
  exact step

theorem History.extend {db after : Database} {past : List Database} (history : History db past)
    (consistent : Consistent after) (advance : Advance db after) (evolved : Evolved db after) :
    History after (after :: past) where
  newest := rfl
  consistent := by
    intro state member
    rcases List.mem_cons.mp member with rfl | old
    · exact consistent
    · exact history.consistent state old
  steps := isChain_extend history.newest history.steps advance
  evolved := List.pairwise_cons.mpr ⟨fun state member => (history.since member).trans evolved, history.evolved⟩

theorem History.statement {db : Database} {past : List Database} {op : DbOp}
    (history : History db past) (allowed : op.Allowed db) :
    History (op.query db).2 ((op.query db).2 :: past) := by
  have effect := query_effect allowed
  exact history.extend (effect.consistent allowed history.current)
    (effect.advance history.current) (effect.evolved history.current.keyed)

end McServer.ControlPlane
