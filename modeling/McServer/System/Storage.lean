import McServer.System.Histories
import McServer.System.Publication

set_option autoImplicit false

namespace McServer.System

open Domain Store Agent ControlPlane Interleaving

def worldAfter (lives : List (Setup × Run)) : World :=
  lives.foldl (fun world life => crash ((machine life.1).run life.2 (Machine.idle world)).state) initial

def reachedAfter (lives : List (Setup × Run)) (setup : Setup) (run : Run) :
    Config Thread Op Op.Res World :=
  (machine setup).run run (Machine.idle (worldAfter lives))

def storage (row : ServerRow) : DataSpec := row.spec.data

structure Kept (db : Database) (past : List Database) : Prop where
  servers : SameColumn storage db past
  instances : ∀ row ∈ db.serverInstances, ∃ state ∈ past, ∃ server ∈ state.servers,
    server.id = row.serverId ∧ row.resolvedSpec.data = storage server

section Keeping

variable {setup : Setup} {policy : Policy setup} {world : World} {statement : DbOp}

theorem storage_kept (held : SameColumn storage world.db world.past)
    (drafted : Drafted world statement) {old new : ServerRow} (member : old ∈ world.db.servers)
    (change : ServerChange statement world.db old new) : storage new = storage old := by
  rcases change.spec with same | ⟨server, previous, rfl, named, written⟩
  · rw [storage, storage, same]
  · obtain ⟨state, kept, read, stored, -, spec, now, sameData, changed, drawn⟩ := drafted
    obtain ⟨-, -, -, updated⟩ := (Server.updateSpec_ok changed).resolve_left (by simp)
    rw [updated] at drawn
    have same : old.id = read.id := by rw [← named, drawn]
    rw [held state kept read stored old member same, storage, written, drawn]
    exact sameData

theorem Kept.after_statement (kept : Kept world.db world.past) (inv : Inv setup policy world)
    (issuable : Issuable setup policy world statement) :
    Kept (statement.query world.db).2 ((statement.query world.db).2 :: world.past) := by
  refine ⟨kept.servers.after_statement inv issuable fun old member new change =>
    storage_kept kept.servers issuable.2.2 member change, fun row member => ?_⟩
  rcases (query_instances statement world.db).origin row member with
    ⟨old, present, aged⟩ | ⟨server, stored, id, now, -, rfl⟩
  · obtain ⟨state, recorded, server, stored, named, same⟩ := kept.instances old present
    refine ⟨state, List.mem_cons_of_mem _ recorded, server, stored, named.trans aged.server.symm, ?_⟩
    rw [aged.spec, same]
  · exact ⟨world.db, List.mem_cons_of_mem _ (List.mem_of_mem_head? inv.history.newest), server, stored,
      rfl, rfl⟩

theorem Kept.again (kept : Kept world.db world.past) (inv : Inv setup policy world) :
    Kept world.db (world.db :: world.past) := by
  refine ⟨fun state recorded old member row stored sameId => ?_, fun row member => ?_⟩
  · rcases List.mem_cons.mp recorded with rfl | earlier
    · rw [inv.history.current.keyed.serverIds.eq_of_key stored member sameId]
    · exact kept.servers state earlier old member row stored sameId
  · obtain ⟨state, recorded, server, stored, named, same⟩ := kept.instances row member
    exact ⟨state, List.mem_cons_of_mem _ recorded, server, stored, named, same⟩

end Keeping

theorem Inv.reconfigured {setup other : Setup} {world : World}
    (inv : Inv setup (Policy.unrestricted setup) world) :
    Inv other (Policy.unrestricted other) world :=
  { inv with
    specified := ⟨fun _ _ => trivial, fun row member => inv.specified.instances row member⟩ }

theorem run_kept {setup : Setup} {world : World} (inv : Inv setup (Policy.unrestricted setup) world)
    (kept : Kept world.db world.past) (run : Run) :
    Sound.Respected (machine setup) (contract setup (Policy.unrestricted setup))
        ((machine setup).run run (Machine.idle world)) ∧
      Kept ((machine setup).run run (Machine.idle world)).state.db
        ((machine setup).run run (Machine.idle world)).state.past := by
  have respected : Sound.Respected (machine setup) (contract setup (Policy.unrestricted setup))
      (Machine.idle world) := Sound.idle_respected inv
  refine ⟨(sound setup _).run_respected (admitted_unrestricted run) respected, ?_⟩
  exact run_database Kept (fun _ _ => True) (fun _ _ inv issuable _ held => held.after_statement inv issuable)
    (fun _ inv held => held.again inv) (admitted_unrestricted run) (along_anything run _) respected kept

theorem worldAfter_kept (lives : List (Setup × Run)) (setup : Setup) :
    Inv setup (Policy.unrestricted setup) (worldAfter lives) ∧
      Kept (worldAfter lives).db (worldAfter lives).past := by
  induction lives using List.reverseRecOn with
  | nil =>
    refine ⟨initial_inv setup _, ?_, ?_⟩
    · simp [worldAfter, initial, SameColumn, Database.empty]
    · simp [worldAfter, initial, Database.empty]
  | append_singleton lives life ih =>
    have invLife : Inv life.1 (Policy.unrestricted life.1) (worldAfter lives) := ih.1.reconfigured
    have lived := run_kept invLife ih.2 life.2
    simp only [worldAfter, List.foldl_append, List.foldl_cons, List.foldl_nil]
    exact ⟨crash_keeps lived.1.1.reconfigured, lived.2⟩

def located : Command → Option (Uuid × String)
  | .restoreData params => some (params.serverId, params.repository)
  | .snapshotData params => some (params.serverId, params.repository)
  | _ => none

def WrittenTo (log : List Entry) (serverId : Uuid) (repository snapshotId : String) : Prop :=
  ∃ recent compute messages params older,
    log = recent ++ .happened compute (.backedUp params.identity.serverInstanceId messages false) ::
      .executed compute (.snapshotData params) :: older ∧
    parseBackupSnapshotId messages = .ok snapshotId ∧
    params.serverId = serverId ∧ params.repository = repository

section Telling

variable {setup : Setup} {policy : Policy setup} {world : World}

theorem Kept.single (kept : Kept world.db world.past) (inv : Inv setup policy world)
    {first second : Database} (left : first ∈ world.past) (right : second ∈ world.past)
    {old new : ServerRow} (member : old ∈ first.servers) (present : new ∈ second.servers)
    (same : new.id = old.id) : storage new = storage old := by
  -- Servers are never deleted, so both are compared with the row of today.
  obtain ⟨row, stored, evolved⟩ := (inv.history.since left).servers old member
  rw [← kept.servers first left old member row stored evolved.id,
    ← kept.servers second right new present row stored (evolved.id.trans same.symm)]

theorem Kept.given (kept : Kept world.db world.past) (inv : Inv setup policy world)
    {first second : Database} (left : first ∈ world.past) (right : second ∈ world.past)
    {server : ServerRow} {row : ServerInstance} (member : server ∈ first.servers)
    (present : row ∈ second.serverInstances) (owner : row.serverId = server.id) :
    row.resolvedSpec.data = storage server := by
  obtain ⟨now, stored, evolved⟩ := (inv.history.since right).instances row present
  obtain ⟨state, recorded, origin, origin', named, same⟩ := kept.instances now stored
  rw [← evolved.spec, same]
  exact kept.single inv left recorded member origin' (named.trans (evolved.server.trans owner))

theorem Kept.told (kept : Kept world.db world.past) (inv : Inv setup policy world)
    {compute : ComputeInstanceId} {command : Command} (permitted : Permitted world compute command)
    {serverId : Uuid} {repository : String} (names : located command = some (serverId, repository)) :
    ∃ server ∈ world.db.servers, server.id.uuid = serverId ∧ repository = (storage server).repository := by
  have current := List.mem_of_mem_head? inv.history.newest
  obtain ⟨row, member, -, fit, -⟩ := permitted
  obtain ⟨server, stored, owner, -⟩ := inv.history.current.lineage.numbered row member
  have same := kept.given inv current current stored member owner.symm
  refine ⟨server, stored, ?_⟩
  cases command with
  | restoreData params | snapshotData params =>
    rw [(fit : params = _)] at names
    simp only [located, Option.some.injEq, Prod.mk.injEq] at names
    rw [owner, ← same]
    exact ⟨names.1, names.2.symm⟩
  | _ => cases names

theorem Kept.found (kept : Kept world.db world.past) (inv : Inv setup policy world)
    {compute : ComputeInstanceId} {params : RestoreDataParams}
    (permitted : Permitted world compute (.restoreData params)) {snapshotId : String}
    (source : params.sourceSnapshotId = some snapshotId) :
    WrittenTo world.log params.serverId params.repository snapshotId := by
  have current := List.mem_of_mem_head? inv.history.newest
  have consistent := inv.history.current
  obtain ⟨row, member, -, fit, -⟩ := permitted
  rw [(fit : params = _)] at source ⊢
  obtain ⟨server, stored, owner, -⟩ := consistent.lineage.numbered row member
  have last := consistent.lineage.source row member
  rw [show row.sourceSnapshotId = some snapshotId from source] at last
  obtain ⟨earlier, ⟨present, sameServer, -, -⟩, result, -⟩ := last
  obtain ⟨older, explained⟩ := inv.log.of_mem (inv.results earlier present snapshotId result)
  obtain ⟨recent, writer, messages, written, rest, split, named, parsed, -⟩ := explained.origin
  have executed : .executed writer (.snapshotData written) ∈ world.log := by simp [split]
  obtain ⟨-, ⟨author, listed, -, fit', -⟩, -⟩ := inv.log.of_mem executed
  have same : author = earlier := by
    rw [(fit' : written = _)] at named
    exact consistent.keyed.instanceIds.eq_of_key listed present (instanceId_of_uuid named)
  rw [← named] at split
  refine ⟨recent, writer, messages, written, rest, split, parsed, ?_, ?_⟩
  · rw [(fit' : written = _), same, sameServer]
  · rw [(fit' : written = _), same]
    have data := kept.given inv current current stored member owner.symm
    have data' := kept.given inv current current stored present (sameServer.trans owner.symm)
    exact congrArg DataSpec.repository (data'.trans data.symm)

end Telling

theorem storage_location_never_changes (lives : List (Setup × Run)) (setup : Setup) (run : Run) :
    (∀ first ∈ (reachedAfter lives setup run).state.past, ∀ second ∈ (reachedAfter lives setup run).state.past,
      (∀ old ∈ first.servers, ∀ new ∈ second.servers, new.id = old.id → new.spec.data = old.spec.data) ∧
      ∀ server ∈ first.servers, ∀ row ∈ second.serverInstances, row.serverId = server.id →
        row.resolvedSpec.data = server.spec.data) ∧
    ∀ compute command next,
      (reachedAfter lives setup run).threads .worker = .call (.link (.send compute command)) next →
      (∀ serverId repository, located command = some (serverId, repository) →
        ∃ server ∈ (reachedAfter lives setup run).state.db.servers, server.id.uuid = serverId ∧
          repository = server.spec.data.repository) ∧
      ∀ params, command = .restoreData params → ∀ snapshotId, params.sourceSnapshotId = some snapshotId →
        WrittenTo (reachedAfter lives setup run).state.log params.serverId params.repository snapshotId := by
  have before := worldAfter_kept lives setup
  obtain ⟨respected, kept⟩ := run_kept before.1 before.2 run
  have inv := respected.1
  refine ⟨fun first left second right =>
    ⟨fun old member new present same => kept.single inv left right member present same,
      fun server member row present owner => kept.given inv left right member present owner⟩, ?_⟩
  intro compute command next waiting
  have permitted := ((sound setup _).respected_guard respected waiting).1
  refine ⟨fun serverId repository names => kept.told inv permitted names, ?_⟩
  rintro params rfl snapshotId source
  exact kept.found inv permitted source

end McServer.System
