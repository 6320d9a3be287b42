import McServer.Store.Repositories

set_option autoImplicit false

namespace McServer.Store

open Domain

section Tables

variable {Row : Type} {check : Row → Bool} {conflicts : Row → Row → Bool}

theorem insertRow_stored {row : Row} {rows stored : List Row}
    (inserted : insertRow check conflicts row rows = .stored stored) :
    stored = rows ++ [row] ∧ check row = true ∧ ∀ other ∈ rows, conflicts row other = false := by
  unfold insertRow at inserted
  split at inserted
  · cases inserted
  · rename_i valid
    split at inserted
    · cases inserted
    · rename_i free
      injection inserted with same
      exact ⟨same.symm, by simpa using valid, by simpa using free⟩

theorem updateRows_some {selects : Row → Bool} {set : Row → Row} {rows stored : List Row}
    (updated : updateRows check selects set rows = some stored) :
    stored = Table.update selects set rows ∧ ∀ row ∈ rows, selects row = true → check (set row) = true := by
  unfold updateRows at updated
  split at updated
  · rename_i valid
    injection updated with same
    refine ⟨same.symm, fun row member chosen => ?_⟩
    have checked := List.all_eq_true.mp valid row member
    simpa [chosen] using checked
  · cases updated

variable {rows : Database → List Row} {replace : Database → List Row → Database}

theorem updateTable_cases (selects : Row → Bool) (set : Row → Row) (db : Database) :
    updateTable check rows replace selects set db = (.error .database, db) ∨
      (updateTable check rows replace selects set db = (.ok (Table.affected selects (rows db)),
          replace db (Table.update selects set (rows db))) ∧
        ∀ row ∈ rows db, selects row = true → check (set row) = true) := by
  unfold updateTable
  cases updated : updateRows check selects set (rows db) with
  | none => exact .inl rfl
  | some stored =>
    obtain ⟨rfl, checked⟩ := updateRows_some updated
    exact .inr ⟨rfl, checked⟩

theorem touchedOne_cases (selects : Row → Bool) (set : Row → Row) (db : Database) :
    touchedOne (updateTable check rows replace selects set) db = (.error .database, db) ∨
      (touchedOne (updateTable check rows replace selects set) db =
          (.ok (Table.affected selects (rows db) == 1), replace db (Table.update selects set (rows db))) ∧
        ∀ row ∈ rows db, selects row = true → check (set row) = true) := by
  unfold touchedOne
  rcases @updateTable_cases Row check rows replace selects set db with
    failed | ⟨stored, checked⟩
  · rw [failed]
    exact .inl rfl
  · rw [stored]
    exact .inr ⟨rfl, checked⟩

theorem touchedOne_keeps {holds : Database → Prop} {selects : Row → Bool} {set : Row → Row}
    {db : Database} (unchanged : holds db)
    (updated : (∀ row ∈ rows db, selects row = true → check (set row) = true) →
      holds (replace db (Table.update selects set (rows db)))) :
    holds (touchedOne (updateTable check rows replace selects set) db).2 := by
  rcases @touchedOne_cases Row check rows replace selects set db with failed | ⟨stored, checked⟩
  · rw [failed]
    exact unchanged
  · rw [stored]
    exact updated checked

theorem touchedOne_true {selects : Row → Bool} {set : Row → Row} {db : Database}
    (touched : (touchedOne (updateTable check rows replace selects set) db).1 = .ok true) :
    (touchedOne (updateTable check rows replace selects set) db).2 =
        replace db (Table.update selects set (rows db)) ∧
      ∃ row ∈ rows db, selects row = true := by
  rcases @touchedOne_cases Row check rows replace selects set db with failed | ⟨stored, -⟩
  · rw [failed] at touched
    cases touched
  · rw [stored] at touched ⊢
    injection touched with one
    refine ⟨rfl, Table.affected_pos.mp ?_⟩
    rw [beq_iff_eq] at one
    omega

theorem touchedOne_one {selects : Row → Bool} {set : Row → Row} {db : Database} {touched : Bool}
    (one : Table.affected selects (rows db) = 1)
    (answered : (touchedOne (updateTable check rows replace selects set) db).1 = .ok touched) :
    touched = true := by
  rcases @touchedOne_cases Row check rows replace selects set db with failed | ⟨stored, -⟩
  · rw [failed] at answered
    cases answered
  · rw [stored] at answered
    injection answered with same
    rw [← same, one]
    rfl

end Tables

theorem updateServers_cases (selects : ServerRow → Bool) (set : ServerRow → ServerRow) (db : Database) :
    updateServers selects set db = (.error .database, db) ∨
      (updateServers selects set db = (.ok (Table.affected selects db.servers),
          { db with servers := Table.update selects set db.servers }) ∧
        ∀ row ∈ db.servers, selects row = true → (set row).check = true) :=
  updateTable_cases selects set db

theorem updateInstances_cases (selects : ServerInstance → Bool)
    (set : ServerInstance → ServerInstance) (db : Database) :
    updateInstances selects set db = (.error .database, db) ∨
      (updateInstances selects set db = (.ok (Table.affected selects db.serverInstances),
          { db with serverInstances := Table.update selects set db.serverInstances }) ∧
        ∀ row ∈ db.serverInstances, selects row = true → instanceCheck (set row) = true) :=
  updateTable_cases selects set db

theorem positiveU64ToI64_ok {value bound : Nat} (accepted : positiveU64ToI64 value = .ok bound) :
    bound = value := by
  unfold positiveU64ToI64 at accepted
  split at accepted
  · cases accepted
  · split at accepted
    · cases accepted
    · injection accepted with same
      exact same.symm

section Guarded

variable {generation previous : Nat} {selects : Nat → ServerRow → Bool}
  {set : Nat → ServerRow → ServerRow} {db : Database}

theorem guarded_cases (generation previous : Nat) (selects : Nat → ServerRow → Bool)
    (set : Nat → ServerRow → ServerRow) (db : Database) :
    (∃ error, (binding generation fun bound => binding previous fun old =>
        touchedOne (updateServers (selects old) (set bound))) db = (.error error, db)) ∨
      (binding generation fun bound => binding previous fun old =>
        touchedOne (updateServers (selects old) (set bound))) db =
        (.ok (Table.affected (selects previous) db.servers == 1),
          { db with servers := Table.update (selects previous) (set generation) db.servers }) := by
  unfold binding
  cases bound : positiveU64ToI64 generation with
  | error error => exact .inl ⟨error, rfl⟩
  | ok value =>
    cases old : positiveU64ToI64 previous with
    | error error => exact .inl ⟨error, rfl⟩
    | ok value' =>
      rw [← positiveU64ToI64_ok bound, ← positiveU64ToI64_ok old]
      rcases @touchedOne_cases ServerRow ServerRow.check Database.servers
          (fun database servers => { database with servers }) (selects value') (set value) db with
        failed | ⟨stored, -⟩
      · exact .inl ⟨.database, failed⟩
      · exact .inr stored

theorem guarded_stored (stored : ((binding generation fun bound => binding previous fun old =>
      touchedOne (updateServers (selects old) (set bound))) db).1 = .ok true) :
    ∃ row ∈ db.servers, selects previous row = true ∧
      set generation row ∈ ((binding generation fun bound => binding previous fun old =>
        touchedOne (updateServers (selects old) (set bound))) db).2.servers := by
  rcases guarded_cases generation previous selects set db with ⟨error, failed⟩ | done
  · rw [failed] at stored
    cases stored
  · rw [done] at stored ⊢
    injection stored with one
    have touched : 0 < Table.affected (selects previous) db.servers := by
      rw [beq_iff_eq] at one
      omega
    obtain ⟨row, member, chosen⟩ := Table.affected_pos.mp touched
    refine ⟨row, member, chosen, ?_⟩
    have kept := @Table.update_mem _ (selects previous) (set generation) _ row member
    rwa [if_pos chosen] at kept

theorem guarded_refused {key : ServerId} (keyed : Table.Unique (fun row : ServerRow => row.id) db.servers)
    (named : ∀ row, selects previous row = true → row.id = key)
    (refused : ((binding generation fun bound => binding previous fun old =>
      touchedOne (updateServers (selects old) (set bound))) db).1 = .ok false) :
    ∀ row ∈ db.servers, selects previous row = false := by
  rcases guarded_cases generation previous selects set db with ⟨error, failed⟩ | done
  · rw [failed] at refused
    cases refused
  · rw [done] at refused
    injection refused with one
    intro row member
    by_contra chosen
    rw [Bool.not_eq_false] at chosen
    rw [(keyed.affected_eq_one named).mpr ⟨row, member, chosen⟩] at one
    cases one

theorem guarded_unmoved {key : ServerId} (keyed : Table.Unique (fun row : ServerRow => row.id) db.servers)
    (named : ∀ row, selects previous row = true → row.id = key)
    (refused : ((binding generation fun bound => binding previous fun old =>
      touchedOne (updateServers (selects old) (set bound))) db).1 = .ok false) :
    ((binding generation fun bound => binding previous fun old =>
      touchedOne (updateServers (selects old) (set bound))) db).2.servers = db.servers := by
  have spared := guarded_refused keyed named refused
  rcases guarded_cases generation previous selects set db with ⟨error, failed⟩ | done
  · rw [failed]
  · rw [done]
    refine Table.update_of_unaffected ?_
    simpa [Table.affected, List.countP_eq_zero] using spared

end Guarded

theorem find_id_mem {Row Key : Type} [DecidableEq Key] {key : Row → Key} {value : Key} {rows : List Row}
    {row : Row} (found : rows.find? (fun other => key other = value) = some row) :
    row ∈ rows ∧ key row = value :=
  ⟨List.mem_of_find?_eq_some found, by simpa using List.find?_some found⟩

theorem insertForRunningServer_cases (serverId : ServerId) (id : ServerInstanceId)
    (now : UnixTimestampMillis) (db : Database) :
    (∃ result, ServerInstanceRepository.insertForRunningServer serverId id now db = (result, db) ∧
      result ≠ .ok true) ∨
    ∃ server row, server ∈ db.servers ∧ server.id = serverId ∧ server.desiredState = .running ∧
      db.hasActiveInstance server.id = false ∧
      row.id = id ∧ row.serverId = server.id ∧ row.resolvedSpec = server.spec ∧
      row.fencingToken = server.nextFencingToken ∧ row.sourceSnapshotId = server.currentSnapshotId ∧
      row.dataPreparedAt = none ∧ row.resultSnapshotId = none ∧ row.stopRequestedAt = none ∧
      row.terminatedAt = none ∧
      (∀ other ∈ db.serverInstances, instanceConflicts row other = false) ∧
      ServerInstanceRepository.insertForRunningServer serverId id now db = (.ok true, { db with
          serverInstances := db.serverInstances ++ [row]
          servers := Table.update (fun row => row.id = serverId)
            (fun row => { row with nextFencingToken := row.nextFencingToken + 1 }) db.servers }) := by
  unfold ServerInstanceRepository.insertForRunningServer
  split
  · exact .inl ⟨_, rfl, by simp⟩
  · rename_i server found
    obtain ⟨member, named⟩ := find_id_mem found
    split
    · rename_i eligible
      simp only [Bool.and_eq_true, decide_eq_true_eq, Bool.not_eq_true'] at eligible
      dsimp only
      split
      · exact .inl ⟨_, rfl, by simp⟩
      · split
        · rename_i stored inserted
          obtain ⟨rfl, -, free⟩ := insertRow_stored inserted
          exact .inr ⟨server, _, member, named, eligible.1, eligible.2, rfl, rfl, rfl, rfl, rfl, rfl,
            rfl, rfl, rfl, free, rfl⟩
        · exact .inl ⟨_, rfl, by simp⟩
        · exact .inl ⟨_, rfl, by simp⟩
    · exact .inl ⟨_, rfl, by simp⟩

theorem insertForInstance_cases (id : ComputeInstanceId) (owner : ServerInstanceId)
    (provider : ComputeProvider) (connectionToken : String) (enrollmentToken : Option String)
    (now : UnixTimestampMillis) (db : Database) :
    (∃ result, ComputeInstanceRepository.insertForInstance id owner provider connectionToken
      enrollmentToken now db = (result, db) ∧ result ≠ .ok true) ∨
    ∃ row : ComputeRow, row.id = id ∧ row.serverInstanceId = owner ∧ row.provider = provider ∧
      row.providerInstanceId = none ∧ row.terminatedAt = none ∧
      row.connectionToken = connectionToken ∧ row.enrollmentToken = enrollmentToken ∧
      row.check = true ∧ (∀ other ∈ db.computeInstances, row.conflicts other = false) ∧
      (∃ found ∈ db.serverInstances, found.id = owner ∧ found.terminatedAt = none) ∧
      (∀ other ∈ db.computeInstances, other.serverInstanceId = owner → other.terminatedAt.isSome) ∧
      ComputeInstanceRepository.insertForInstance id owner provider connectionToken enrollmentToken now db =
          (.ok true, { db with computeInstances := db.computeInstances ++ [row] }) := by
  unfold ComputeInstanceRepository.insertForInstance
  dsimp only
  split
  · rename_i eligible
    simp only [Bool.and_eq_true, List.any_eq_true, decide_eq_true_eq, Option.isNone_iff_eq_none,
      Bool.not_eq_true'] at eligible
    obtain ⟨running, vacant⟩ := eligible
    split
    · rename_i stored inserted
      obtain ⟨rfl, check, free⟩ := insertRow_stored inserted
      refine .inr ⟨_, rfl, rfl, rfl, rfl, rfl, rfl, rfl, check, free, running, fun other member owned => ?_,
        rfl⟩
      have inactive := List.any_eq_false.mp vacant other member
      simpa [owned, Option.isSome_iff_ne_none] using inactive
    · exact .inl ⟨_, rfl, by simp⟩
    · exact .inl ⟨_, rfl, by simp⟩
  · exact .inl ⟨_, rfl, by simp⟩

section Snapshots

open SnapshotRepository

theorem publish_cases (found : ServerInstance) (token : Nat) (snapshotId : String)
    (committedAt : UnixTimestampMillis) (db : Database) :
    (∃ error, publish found token snapshotId committedAt db = (.error error, db)) ∨
    ∃ instances, instances = Table.update (isPublisher found.id token) (markPublished snapshotId committedAt)
        db.serverInstances ∧
      Table.affected (mayPublish found token instances) db.servers = 1 ∧
      publish found token snapshotId committedAt db = (.ok true, { db with
          serverInstances := instances
          servers := Table.update (mayPublish found token instances)
            (markCurrent snapshotId committedAt) db.servers }) := by
  unfold publish
  rcases updateInstances_cases (isPublisher found.id token) (markPublished snapshotId committedAt) db with
    failed | ⟨stored, -⟩
  · rw [failed]
    exact .inl ⟨_, rfl⟩
  · rw [stored]
    dsimp only
    split
    · exact .inl ⟨_, rfl⟩
    · obtain ⟨instances, updated⟩ : ∃ instances, instances = Table.update
          (isPublisher found.id token) (markPublished snapshotId committedAt) db.serverInstances :=
        ⟨_, rfl⟩
      rw [← updated]
      rcases updateServers_cases (mayPublish found token instances)
          (markCurrent snapshotId committedAt) { db with serverInstances := instances } with
        failed | ⟨stored', -⟩
      · rw [failed]
        exact .inl ⟨_, rfl⟩
      · rw [stored']
        dsimp only
        split
        · exact .inl ⟨_, rfl⟩
        · rename_i one
          exact .inr ⟨instances, rfl, not_not.mp one, rfl⟩

structure Publishing (db : Database) (found : ServerInstance) (token : Nat) (snapshotId : String)
    (committedAt : UnixTimestampMillis) (instances : List ServerInstance) : Prop where
  member : found ∈ db.serverInstances
  token_eq : found.fencingToken = token
  active : found.terminatedAt = none
  unpublished : found.resultSnapshotId = none
  updated : instances = Table.update (isPublisher found.id token)
    (markPublished snapshotId committedAt) db.serverInstances
  one : Table.affected (mayPublish found token instances) db.servers = 1
  fresh : ∀ snapshot ∈ db.snapshots, snapshot.serverId = found.serverId → snapshot.id ≠ snapshotId
  publishable : isPublishable snapshotId = true

def publishedDatabase (db : Database) (found : ServerInstance) (token : Nat) (snapshotId : String)
    (committedAt : UnixTimestampMillis) (instances : List ServerInstance) : Database :=
  { db with
    serverInstances := instances
    servers := Table.update (mayPublish found token instances) (markCurrent snapshotId committedAt)
      db.servers
    snapshots := db.snapshots ++ [{ id := snapshotId, serverId := found.serverId
                                    serverInstanceId := found.id, fencingToken := token
                                    createdAt := committedAt }] }

theorem joined_mem {db : Database} {id : ServerInstanceId} {found : ServerInstance} {server : ServerRow}
    (joined : ((db.serverInstances.find? fun row => row.id = id).bind fun found =>
      (db.servers.find? fun row => row.id = found.serverId).map fun server => (found, server)) =
        some (found, server)) : found ∈ db.serverInstances ∧ found.id = id := by
  obtain ⟨row, sought, joined⟩ := Option.bind_eq_some_iff.mp joined
  obtain ⟨_, -, paired⟩ := Option.map_eq_some_iff.mp joined
  injection paired with same
  rw [← same]
  exact find_id_mem sought

theorem commit_cases (id : ServerInstanceId) (token : Nat) (snapshotId : String)
    (now : UnixTimestampMillis) (db : Database) :
    (∃ result, commit id token snapshotId now db = (result, db) ∧ result ≠ .ok true) ∨
    ∃ found committedAt instances, found.id = id ∧ Publishing db found token snapshotId committedAt instances ∧
      commit id token snapshotId now db =
        (.ok true, publishedDatabase db found token snapshotId committedAt instances) := by
  unfold commit
  split
  · exact .inl ⟨_, rfl, by simp⟩
  rename_i publishable
  simp only [Bool.not_eq_true, Bool.not_eq_false'] at publishable
  dsimp only
  split
  · exact .inl ⟨_, rfl, by simp⟩
  rename_i row server joined
  obtain ⟨member, named⟩ := joined_mem joined
  split
  · exact .inl ⟨_, rfl, by simp⟩
  rename_i bound accepted
  obtain rfl := positiveU64ToI64_ok accepted
  split
  · exact .inl ⟨_, rfl, by simp⟩
  rename_i valid
  simp only [ne_eq, decide_not, Bool.or_eq_true, Bool.not_eq_true', decide_eq_false_iff_not,
    not_or, Decidable.not_not, Option.not_isSome_iff_eq_none] at valid
  obtain ⟨sameToken, active⟩ := valid
  split
  · split
    · exact .inl ⟨_, rfl, by simp⟩
    · exact .inl ⟨_, rfl, by simp⟩
  rename_i unpublished
  split
  · rename_i snapshots inserted
    obtain ⟨rfl, -, free⟩ := insertRow_stored inserted
    have fresh : ∀ snapshot ∈ db.snapshots, snapshot.serverId = row.serverId → snapshot.id ≠ snapshotId := by
      intro snapshot present owned same
      have apart := free snapshot present
      simp [SnapshotRow.conflicts, owned, same] at apart
    rcases publish_cases row bound snapshotId (max (max now row.updatedAt) server.updatedAt)
        { db with snapshots := db.snapshots ++ [_] } with ⟨error, failed⟩ | ⟨instances, updated, one, done⟩
    · rw [failed]
      exact .inl ⟨_, rfl, by simp⟩
    · rw [done]
      refine .inr ⟨row, _, instances, named, ⟨member, sameToken, active, unpublished, updated, one, fresh,
        publishable⟩, ?_⟩
      rw [publishedDatabase, named]
  · exact .inl ⟨_, rfl, by simp⟩
  · exact .inl ⟨_, rfl, by simp⟩

end Snapshots

section Reads

variable {Row A E F : Type} {rows : List Row} {selects : Row → Bool} {decode : Row → Except E A}

theorem find_decoded {value : A} (accepted : (rows.find? selects).mapM decode = .ok (some value)) :
    ∃ row ∈ rows, selects row = true ∧ decode row = .ok value := by
  cases found : rows.find? selects with
  | none =>
    rw [found] at accepted
    cases accepted
  | some row =>
    rw [found] at accepted
    refine ⟨row, List.mem_of_find?_eq_some found, List.find?_some found, ?_⟩
    cases decoded : decode row with
    | error error =>
      simp only [Option.mapM_some, decoded] at accepted
      cases accepted
    | ok other =>
      simp only [Option.mapM_some, decoded] at accepted
      injection accepted with same
      rw [Option.some.inj same]

theorem find_nothing (accepted : (rows.find? selects).mapM decode = .ok none) :
    ∀ row ∈ rows, selects row = false := by
  cases found : rows.find? selects with
  | none => simpa using List.find?_eq_none.mp found
  | some row =>
    rw [found] at accepted
    cases decoded : decode row with
    | error error =>
      simp only [Option.mapM_some, decoded] at accepted
      cases accepted
    | ok other =>
      simp only [Option.mapM_some, decoded] at accepted
      cases accepted

theorem mapM_decoded {values : List A} (accepted : rows.mapM decode = .ok values) :
    (∀ value ∈ values, ∃ row ∈ rows, decode row = .ok value) ∧
      ∀ row ∈ rows, ∃ value ∈ values, decode row = .ok value := by
  induction rows generalizing values with
  | nil =>
    simp only [List.mapM_nil] at accepted
    injection accepted with same
    subst same
    simp
  | cons row rest ih =>
    rw [List.mapM_cons] at accepted
    cases decoded : decode row with
    | error error =>
      rw [decoded] at accepted
      cases accepted
    | ok value =>
      cases others : rest.mapM decode with
      | error error =>
        rw [decoded, others] at accepted
        cases accepted
      | ok tail =>
        rw [decoded, others] at accepted
        injection accepted with same
        subst same
        obtain ⟨origin, image⟩ := ih others
        constructor
        · intro other member
          rcases List.mem_cons.mp member with rfl | old
          · exact ⟨row, List.mem_cons_self, decoded⟩
          · obtain ⟨source, present, same⟩ := origin other old
            exact ⟨source, List.mem_cons_of_mem _ present, same⟩
        · intro source member
          rcases List.mem_cons.mp member with rfl | old
          · exact ⟨value, List.mem_cons_self, decoded⟩
          · obtain ⟨other, present, same⟩ := image source old
            exact ⟨other, List.mem_cons_of_mem _ present, same⟩

theorem mapError_ok {into : E → F} {result : Except E A} {value : A}
    (accepted : result.mapError into = .ok value) : result = .ok value := by
  cases result with
  | error error => cases accepted
  | ok other =>
    injection accepted with same
    rw [same]

end Reads

theorem decodeServer_ok {row : ServerRow} {server : Server}
    (accepted : ServerRepository.decodeServer row = .ok server) : server = row.toServer :=
  Server.rehydrate_ok (mapError_ok accepted)

theorem decodeInstance_ok {row found : ServerInstance}
    (accepted : ServerInstanceRepository.decodeInstance row = .ok found) : found = row :=
  ServerInstance.rehydrate_ok (mapError_ok accepted)

theorem decodeComputeInstance_ok {row : ComputeRow} {compute : ComputeInstance}
    (accepted : ComputeInstanceRepository.decodeComputeInstance row = .ok compute) :
    compute = row.toComputeInstance :=
  ComputeInstance.rehydrate_ok (mapError_ok accepted)

section Lookups

variable {db : Database}

theorem getServer_some {id : ServerId} {server : Server}
    (accepted : (ServerRepository.get id db).1 = .ok (some server)) :
    ∃ row ∈ db.servers, row.id = id ∧ server = row.toServer := by
  obtain ⟨row, member, chosen, decoded⟩ := find_decoded accepted
  exact ⟨row, member, by simpa using chosen, decodeServer_ok decoded⟩

theorem getByName_some {name : ServerName} {server : Server}
    (accepted : (ServerRepository.getByName name db).1 = .ok (some server)) :
    ∃ row ∈ db.servers, row.name = name ∧ server = row.toServer := by
  obtain ⟨row, member, chosen, decoded⟩ := find_decoded accepted
  exact ⟨row, member, by simpa using chosen, decodeServer_ok decoded⟩

theorem getInstance_some {id : ServerInstanceId} {found : ServerInstance}
    (accepted : (ServerInstanceRepository.get id db).1 = .ok (some found)) :
    found ∈ db.serverInstances ∧ found.id = id := by
  obtain ⟨row, member, chosen, decoded⟩ := find_decoded accepted
  rw [decodeInstance_ok decoded]
  exact ⟨member, by simpa using chosen⟩

theorem getActiveForServer_some {id : ServerId} {found : ServerInstance}
    (accepted : (ServerInstanceRepository.getActiveForServer id db).1 = .ok (some found)) :
    found ∈ db.serverInstances ∧ found.serverId = id ∧ found.terminatedAt = none := by
  obtain ⟨row, member, chosen, decoded⟩ := find_decoded accepted
  rw [decodeInstance_ok decoded]
  exact ⟨member, by simpa using chosen⟩

theorem getCompute_some {id : ComputeInstanceId} {compute : ComputeInstance}
    (accepted : (ComputeInstanceRepository.get id db).1 = .ok (some compute)) :
    ∃ row ∈ db.computeInstances, row.id = id ∧ compute = row.toComputeInstance := by
  obtain ⟨row, member, chosen, decoded⟩ := find_decoded accepted
  exact ⟨row, member, by simpa using chosen, decodeComputeInstance_ok decoded⟩

theorem getActiveForInstance_some {id : ServerInstanceId} {compute : ComputeInstance}
    (accepted : (ComputeInstanceRepository.getActiveForInstance id db).1 = .ok (some compute)) :
    ∃ row ∈ db.computeInstances, row.serverInstanceId = id ∧ row.terminatedAt = none ∧
      compute = row.toComputeInstance := by
  obtain ⟨row, member, chosen, decoded⟩ := find_decoded accepted
  simp only [Bool.and_eq_true, decide_eq_true_eq, Option.isNone_iff_eq_none] at chosen
  exact ⟨row, member, chosen.1, chosen.2, decodeComputeInstance_ok decoded⟩

theorem getActiveForInstance_none {id : ServerInstanceId}
    (accepted : (ComputeInstanceRepository.getActiveForInstance id db).1 = .ok none) :
    ∀ row ∈ db.computeInstances, row.serverInstanceId = id → row.terminatedAt.isSome := by
  intro row member owned
  have unchosen := find_nothing accepted row member
  simpa [owned] using unchosen

theorem getAgentEnrollment_some {id : ComputeInstanceId} {token : String} {enrollment : AgentEnrollment}
    (accepted : (ComputeInstanceRepository.getAgentEnrollment id token db).1 = .ok (some enrollment)) :
    ∃ row ∈ db.computeInstances, (row.id = id ∧ row.provider = .akamai ∧
        row.enrollmentToken = some token ∧ row.terminatedAt = none) ∧
      enrollment = { connectionToken := row.connectionToken
                     certificateSigningRequestPem := row.agentCsrPem
                     certificateChainPem := row.agentCertificateChainPem
                     certificateDer := row.agentCertificateDer
                     certificateExpiresAt := row.agentCertificateExpiresAt } := by
  injection accepted with answered
  obtain ⟨row, found, same⟩ := Option.map_eq_some_iff.mp answered
  have chosen := List.find?_some found
  simp only [Bool.and_eq_true, decide_eq_true_eq, Option.isNone_iff_eq_none] at chosen
  obtain ⟨⟨⟨named, remote⟩, token⟩, running⟩ := chosen
  exact ⟨row, List.mem_of_find?_eq_some found, ⟨named, remote, token, running⟩, same.symm⟩

theorem mem_orderById {rows : List ComputeRow} {row : ComputeRow} :
    row ∈ ComputeInstanceRepository.orderById rows ↔ row ∈ rows := by
  simp [ComputeInstanceRepository.orderById]

theorem listActiveLocalOwnership_complete {active : List (ComputeInstanceId × ServerInstanceId)}
    (accepted : (ComputeInstanceRepository.listActiveLocalOwnership db).1 = .ok active) :
    ∀ row ∈ db.computeInstances, row.terminatedAt = none → row.provider = .localProcess →
      (row.id, row.serverInstanceId) ∈ active := by
  intro row member running here
  injection accepted with same
  rw [← same]
  refine List.mem_map.mpr ⟨row, mem_orderById.mpr (List.mem_filter.mpr ⟨member, ?_⟩), rfl⟩
  simp [running, here]

theorem listActiveAkamai_sound {active : List ComputeInstance}
    (accepted : (ComputeInstanceRepository.listActiveAkamai db).1 = .ok active) :
    ∀ compute ∈ active, ∃ row ∈ db.computeInstances, row.terminatedAt = none ∧
      row.provider = .akamai ∧ compute = row.toComputeInstance := by
  intro compute member
  obtain ⟨row, present, decoded⟩ := (mapM_decoded accepted).1 compute member
  obtain ⟨stored, chosen⟩ := List.mem_filter.mp (mem_orderById.mp present)
  simp only [Bool.and_eq_true, decide_eq_true_eq, Option.isNone_iff_eq_none] at chosen
  exact ⟨row, stored, chosen.1, chosen.2, decodeComputeInstance_ok decoded⟩

theorem listActiveAkamai_complete {active : List ComputeInstance}
    (accepted : (ComputeInstanceRepository.listActiveAkamai db).1 = .ok active) :
    ∀ row ∈ db.computeInstances, row.terminatedAt = none → row.provider = .akamai →
      row.toComputeInstance ∈ active := by
  intro row member running remote
  have listed : row ∈ ComputeInstanceRepository.orderById (db.computeInstances.filter fun row =>
      row.terminatedAt.isNone && row.provider = .akamai) :=
    mem_orderById.mpr (List.mem_filter.mpr ⟨member, by simp [running, remote]⟩)
  obtain ⟨compute, present, decoded⟩ := (mapM_decoded accepted).2 row listed
  rwa [decodeComputeInstance_ok decoded] at present

end Lookups

end McServer.Store
