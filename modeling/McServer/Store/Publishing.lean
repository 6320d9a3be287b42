import McServer.Store.Lineage

set_option autoImplicit false

namespace McServer.Store

open Domain SnapshotRepository

structure Constrained (db : Database) : Prop where
  keyed : Keyed db
  owned : ∀ row ∈ db.serverInstances, ∃ server ∈ db.servers, server.id = row.serverId
  tokens : ∀ row ∈ db.serverInstances, 0 < row.fencingToken ∧ row.fencingToken ≤ maximumI64

section Committing

variable {db : Database} {id : ServerInstanceId} {token : Nat} {snapshotId : String} {now : UnixTimestampMillis}

theorem commit_unless_true (refused : (commit id token snapshotId now db).1 ≠ .ok true) :
    (commit id token snapshotId now db).2 = db := by
  rcases commit_cases id token snapshotId now db with ⟨result, same, -⟩ | ⟨_, _, _, -, -, done⟩
  · rw [same]
  · rw [done] at refused
    exact absurd rfl refused

theorem commit_false (repeated : (commit id token snapshotId now db).1 = .ok false) :
    isPublishable snapshotId = true ∧ ∃ found ∈ db.serverInstances, found.id = id ∧
      found.terminatedAt = none ∧ found.fencingToken = token ∧
      found.resultSnapshotId = some snapshotId := by
  unfold commit at repeated
  cases publishable : isPublishable snapshotId with
  | false => simp [publishable] at repeated
  | true =>
    simp only [publishable, Bool.not_true, Bool.false_eq_true, if_false] at repeated
    split at repeated
    · cases repeated
    rename_i row server joined
    obtain ⟨member, named⟩ := joined_mem joined
    split at repeated
    · cases repeated
    rename_i bound accepted
    obtain rfl := positiveU64ToI64_ok accepted
    split at repeated
    · cases repeated
    rename_i valid
    simp only [ne_eq, decide_not, Bool.or_eq_true, Bool.not_eq_true', decide_eq_false_iff_not,
      not_or, Decidable.not_not, Option.not_isSome_iff_eq_none] at valid
    split at repeated
    · rename_i existing published
      split at repeated
      · rename_i same
        exact ⟨rfl, row, member, named, valid.2, valid.1, by rw [published, same]⟩
      · cases repeated
    · exfalso
      split at repeated
      · rename_i snapshots inserted
        rcases publish_cases row bound snapshotId (max (max now row.updatedAt) server.updatedAt)
            { db with snapshots } with ⟨error, failed⟩ | ⟨_, -, -, done⟩
        · rw [failed] at repeated
          cases repeated
        · rw [done] at repeated
          cases repeated
      · cases repeated
      · cases repeated

theorem commit_repeated (constrained : Constrained db) (publishable : isPublishable snapshotId = true)
    {found : ServerInstance} (member : found ∈ db.serverInstances) (named : found.id = id)
    (active : found.terminatedAt = none) (sameToken : found.fencingToken = token)
    (published : found.resultSnapshotId = some snapshotId) :
    commit id token snapshotId now db = (.ok false, db) := by
  obtain ⟨server, stored, owner⟩ := constrained.owned found member
  obtain ⟨positive, bounded⟩ := constrained.tokens found member
  have looked : db.serverInstances.find? (fun row => row.id = id) = some found := by
    rw [← named]
    exact constrained.keyed.instanceIds.find_eq member
  have joined : db.servers.find? (fun row => row.id = found.serverId) = some server := by
    rw [← owner]
    exact constrained.keyed.serverIds.find_eq stored
  have bound : positiveU64ToI64 token = .ok token := by
    rw [positiveU64ToI64, if_neg (by omega), if_neg (by omega)]
  simp [commit, publishable, looked, joined, bound, sameToken, active, published]

theorem Publishing.exactly {found : ServerInstance} {committedAt : UnixTimestampMillis}
    {instances : List ServerInstance} (keyed : Keyed db)
    (publishing : Publishing db found token snapshotId committedAt instances) :
    publishedDatabase db found token snapshotId committedAt instances = { db with
        snapshots := db.snapshots ++ [{ id := snapshotId, serverId := found.serverId
                                        serverInstanceId := found.id, fencingToken := token
                                        createdAt := committedAt }]
        serverInstances := Table.update (fun row => row.id = found.id)
          (markPublished snapshotId committedAt) db.serverInstances
        servers := Table.update (fun row => row.id = found.serverId) (markCurrent snapshotId committedAt)
          db.servers } := by
  have sameInstances : instances = Table.update (fun row => row.id = found.id)
      (markPublished snapshotId committedAt) db.serverInstances := by
    rw [publishing.updated]
    refine List.map_congr_left fun row member => ?_
    by_cases named : row.id = found.id
    · obtain rfl := keyed.instanceIds.eq_of_key member publishing.member named
      simp [isPublisher, publishing.active, publishing.token_eq]
    · simp [isPublisher, named]
  have sameServers : Table.update (mayPublish found token instances) (markCurrent snapshotId committedAt)
      db.servers = Table.update (fun row => row.id = found.serverId) (markCurrent snapshotId committedAt)
        db.servers := by
    refine List.map_congr_left fun row member => ?_
    simp only [publishing.server keyed.serverIds member, decide_eq_true_eq]
  rw [publishedDatabase, sameServers, sameInstances]

end Committing

theorem commit_is_atomic (db : Database) (constrained : Constrained db) (id : ServerInstanceId)
    (token : Nat) (snapshotId : String) (now : UnixTimestampMillis) :
    ((commit id token snapshotId now db).1 = .ok true →
      ∃ found ∈ db.serverInstances, ∃ server ∈ db.servers, ∃ committedAt, found.id = id ∧
        server.id = found.serverId ∧ found.terminatedAt = none ∧ found.fencingToken = token ∧
        found.resultSnapshotId = none ∧
        (commit id token snapshotId now db).2 = { db with
            snapshots := db.snapshots ++ [{ id := snapshotId, serverId := server.id
                                            serverInstanceId := id, fencingToken := token
                                            createdAt := committedAt }]
            serverInstances := db.serverInstances.map fun row =>
              if row.id = id then
                { row with resultSnapshotId := some snapshotId
                           updatedAt := max committedAt (max row.updatedAt row.createdAt) }
              else row
            servers := db.servers.map fun row =>
              if row.id = server.id then
                { row with currentSnapshotId := some snapshotId
                           updatedAt := max committedAt (max row.updatedAt row.createdAt) }
              else row }) ∧
    ((commit id token snapshotId now db).1 = .ok false ↔
      isPublishable snapshotId = true ∧ ∃ found ∈ db.serverInstances, found.id = id ∧
        found.terminatedAt = none ∧ found.fencingToken = token ∧
        found.resultSnapshotId = some snapshotId) ∧
    ((commit id token snapshotId now db).1 ≠ .ok true → (commit id token snapshotId now db).2 = db) := by
  refine ⟨fun published => ?_, ⟨commit_false, ?_⟩, commit_unless_true⟩
  · rcases commit_cases id token snapshotId now db with
      ⟨result, same, other⟩ | ⟨found, committedAt, instances, rfl, publishing, done⟩
    · rw [same] at published
      exact absurd published other
    · obtain ⟨server, stored, owner⟩ := constrained.owned found publishing.member
      refine ⟨found, publishing.member, server, stored, committedAt, rfl, owner, publishing.active,
        publishing.token_eq, publishing.unpublished, ?_⟩
      rw [done, publishing.exactly constrained.keyed, owner]
      simp only [Table.update, decide_eq_true_eq]
      rfl
  · rintro ⟨publishable, found, member, named, active, sameToken, published⟩
    rw [commit_repeated constrained publishable member named active sameToken published]

def Database.sample : Database where
  servers := [{ toServer := Server.sample 1, nextFencingToken := 2 }]
  serverInstances :=
    [{ id := ⟨2⟩, serverId := ⟨1⟩, serverGeneration := 1, resolvedSpec := (Server.sample 1).spec
       fencingToken := 1, sourceSnapshotId := none, dataPreparedAt := none, processRunning := false
       processObservedAt := none, resultSnapshotId := none, stopRequestedAt := none, terminatedAt := none
       terminalResult := none, lastError := none, createdAt := 1, updatedAt := 1 }]
  computeInstances := []
  snapshots := []

theorem commit_is_atomic_at_first : ∃ found ∈ Database.sample.serverInstances, found.resultSnapshotId = none ∧
      (commit ⟨2⟩ 1 "4f1d" 5 Database.sample).2.computeInstances = [] := by
  have constrained : Constrained Database.sample := by
    refine ⟨⟨?_, ?_, ?_, ?_⟩, ?_, ?_⟩
    · exact List.nodup_singleton _
    · exact List.nodup_singleton _
    · exact List.nodup_singleton _
    · exact List.nodup_nil
    · intro row member
      obtain rfl := List.mem_singleton.mp member
      exact ⟨_, List.mem_singleton.mpr rfl, rfl⟩
    · intro row member
      obtain rfl := List.mem_singleton.mp member
      decide
  obtain ⟨found, member, server, -, committedAt, -, -, -, -, unpublished, after⟩ :=
    (commit_is_atomic Database.sample constrained ⟨2⟩ 1 "4f1d" 5).1 (by decide)
  exact ⟨found, member, unpublished, by rw [after]; rfl⟩

end McServer.Store
