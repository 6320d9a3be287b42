import McServer.System.Soundness

set_option autoImplicit false

namespace McServer.System

open Domain Store Agent ControlPlane Interleaving

def Discards (db : Database) (id : ServerInstanceId) : Entry → Prop
  | .executed _ (.cleanupInstance params) => params.serverInstanceId = id.uuid
  | .completed other => other = id
  | .terminated compute => Allocated db compute id
  | .stateDirectoryRemoved compute => Allocated db compute id
  | _ => False

section Written

variable {setup : Setup} {policy : Policy setup} {world : World} {id : ServerInstanceId}

theorem committed_of_accounted (started : Started world.log id) {earlier : List Entry}
    (accounted : Accounted world earlier id) : Committed earlier id := by
  rcases accounted with committed | idle
  · exact committed
  · exact absurd started idle.fresh

theorem committed_of_discards (inv : Inv setup policy world) (started : Started world.log id)
    {entry : Entry} {earlier : List Entry} (logged : entry :: earlier <:+ world.log)
    (discards : Discards world.db id entry) : Committed earlier id := by
  have explained := inv.log entry earlier logged
  have keyed := inv.history.current.keyed
  cases entry with
  | executed compute command =>
    cases command with
    | cleanupInstance params =>
      obtain ⟨other, named, accounted⟩ := explained.2 params rfl
      rw [instanceId_of_uuid (named.trans (discards : params.serverInstanceId = id.uuid))] at accounted
      exact committed_of_accounted started accounted
    | _ => exact discards.elim
  | completed other =>
    rw [show other = id from discards] at explained
    exact committed_of_accounted started explained
  | terminated compute | stateDirectoryRemoved compute =>
    obtain ⟨other, allocated, accounted⟩ := explained
    rw [Allocated.unique keyed allocated discards] at accounted
    exact committed_of_accounted started accounted
  | _ => exact discards.elim

theorem committed_of_deletion (inv : Inv setup policy world) (started : Started world.log id)
    {vm : ProviderInstance} {db : Database} {earlier : List Entry}
    (logged : .vmDeleted vm db :: earlier <:+ world.log) {data : UserData}
    (provisioned : vm.userData = some data)
    (allocated : Allocated world.db data.computeInstanceId id) :
    Committed earlier id ∨ Replaced db vm data.computeInstanceId ∧ ¬ Started earlier id := by
  obtain ⟨other, allocated', verdict⟩ := inv.log _ earlier logged data provisioned
  rw [Allocated.unique inv.history.current.keyed allocated' allocated] at verdict
  exact verdict.imp_left (committed_of_accounted started)

end Written

theorem written_data_is_published (setup : Setup) (run : Run) (id : ServerInstanceId)
    (started : Started (reached setup run).state.log id) :
    (∀ entry earlier, entry :: earlier <:+ (reached setup run).state.log →
      Discards (reached setup run).state.db id entry → Committed earlier id) ∧
    (∀ vm db earlier, .vmDeleted vm db :: earlier <:+ (reached setup run).state.log →
      ∀ data, vm.userData = some data →
      Allocated (reached setup run).state.db data.computeInstanceId id →
      Committed earlier id ∨ Replaced db vm data.computeInstanceId ∧ ¬ Started earlier id) ∧
    ∀ snapshotId, .committed id snapshotId ∈ (reached setup run).state.log →
      ∃ recent compute messages params older, (reached setup run).state.log =
        recent ++ .happened compute (.backedUp id.uuid messages false) ::
          .executed compute (.snapshotData params) :: older ∧
        params.identity.serverInstanceId = id.uuid ∧
        parseBackupSnapshotId messages = .ok snapshotId ∧ ¬ Started recent id := by
  have inv := reached_inv setup run
  refine ⟨fun entry earlier logged discards => committed_of_discards inv started logged discards,
    fun vm db earlier logged data provisioned allocated =>
      committed_of_deletion inv started logged provisioned allocated, fun snapshotId member => ?_⟩
  obtain ⟨earlier, provenance⟩ := inv.log.of_mem member
  exact provenance.origin

theorem commands_fit_their_instances (setup : Setup) (run : Run) :
    (∀ compute command, .executed compute command ∈ (reached setup run).state.log →
      Permitted (reached setup run).state compute command) ∧
    ∀ compute, (∀ exchange ∈ ((reached setup run).state.links compute).queue,
        Permitted (reached setup run).state compute exchange.command) ∧
      ((reached setup run).state.links compute).queue.Pairwise fun first second =>
        ∀ id, snapshotsInstance id first.command = true → startsInstance id second.command = false := by
  have inv := reached_inv setup run
  refine ⟨fun compute command member => ?_,
    fun compute => ⟨inv.agents.queued compute, inv.agents.ordered compute⟩⟩
  obtain ⟨earlier, explained⟩ := inv.log.of_mem member
  exact explained.1

namespace Sample

def choice (uuid : Nat) : Choice where
  fault := .none
  now := .ok 1
  uuid := BitVec.ofNat 128 uuid
  answers :=
    { image := { id := "", status := "", deprecated := false, capabilities := [] }
      region := { id := "", capabilities := [] }
      instanceType := ""
      firewall := { id := 1, status := "" }
      firewalls := []
      ipv4 := []
      error := .http }
  callError := .timeout
  localError := .missingProcessId
  expired := false
  processId := 1
  startTimeTicks := 1
  containers := []
  directories := []
  file := .ok ""
  signed := .error .io
  credentials := .error .request

def setup : Setup where
  manager :=
    { localProcess := { localScope := "default", processStopTimeoutMillis := 1000 }, akamai := none }
  reapLocal := true
  certificateValidityMillis := none
  r2Credentials := none
  agentConfig compute :=
    { dataAccessMode := .host, stateDirectory := "", localScope := "default"
      computeInstanceId := compute.uuid }

def spec (version : String) : DesiredServerSpec where
  compute := .local
  process :=
    { containerImage := "itzg/minecraft-server", serverType := "VANILLA", version, hostPort := 25565
      stopTimeoutSeconds := 60, acceptEula := true, environment := Environment.empty }
  data := .localRestic "/srv/restic"

def serverId : ServerId := ⟨1⟩
def instanceId : ServerInstanceId := ⟨2⟩
def computeId : ComputeInstanceId := ⟨2⟩

def advances (thread : Thread) (uuid steps : Nat) : Run :=
  List.replicate steps (.advance thread (choice uuid))

def call (request : ClientRequest) : Run :=
  .start (.client 0) (.request request) :: advances (.client 0) 1 5

def createAndRun : Run :=
  call (.create "world" (spec "1.21")) ++ call (.setDesiredState "world" .running none)

def agentWorks : Event Thread Task Action Choice :=
  .environment (.agentExecutes computeId (List.replicate 30
    { fault := .none, error := .missingSnapshotId, succeeds := true
      messages := [{ messageType := some "summary", snapshotId := some "4f1d" }] }))

def reconcile (steps : List Nat) : Run :=
  .start .worker (.reconcile serverId) ::
    steps.flatMap fun count => advances .worker 2 count ++ [agentWorks]

def register : Run :=
  .start (.connection 0) (.connect .localProcess
    { id := .present, validVersion := true
      method := .register (some
        { protocolVersion := 3, computeInstanceId := computeId
          connectionToken := Uuid.simple 2 ++ Uuid.simple 2 }) } none) ::
    advances (.connection 0) 1 7

def life : Run :=
  createAndRun ++ reconcile [40] ++ register ++ reconcile [8, 11, 3, 11, 3, 11, 2] ++
    call (.setDesiredState "world" .stopped none) ++
    reconcile [13, 3, 12, 3, 13, 3, 11, 3, 5, 40]

end Sample

theorem started_in_life : Started (reached Sample.setup Sample.life).state.log Sample.instanceId := by
  unfold Started
  decide +kernel

theorem life_is_published :
    ∃ earlier, .completed Sample.instanceId :: earlier <:+ (reached Sample.setup Sample.life).state.log ∧
      Committed earlier Sample.instanceId := by
  have completed : ((reached Sample.setup Sample.life).state.log.head?.any fun entry =>
      match entry with
      | .completed id => id = Sample.instanceId
      | _ => false) = true := by decide +kernel
  cases split : (reached Sample.setup Sample.life).state.log with
  | nil => simp [split] at completed
  | cons entry earlier =>
    simp only [split, List.head?_cons, Option.any_some] at completed
    cases entry with
    | completed id =>
      obtain rfl : id = Sample.instanceId := by simpa using completed
      have whole : Entry.completed Sample.instanceId :: earlier <:+
          (reached Sample.setup Sample.life).state.log := split ▸ List.suffix_refl _
      exact ⟨earlier, List.suffix_refl _, (written_data_is_published Sample.setup Sample.life
        Sample.instanceId started_in_life).1 _ earlier whole rfl⟩
    | _ => cases completed

structure Linear (db : Database) (server : ServerRow) : Prop where
  distinct : ∀ first ∈ db.serverInstances, ∀ second ∈ db.serverInstances,
    first.serverId = server.id → second.serverId = server.id →
    first.fencingToken = second.fencingToken → first = second
  below : ∀ row ∈ db.serverInstances, row.serverId = server.id →
    row.fencingToken < server.nextFencingToken
  active : ∀ row ∈ db.serverInstances, row.serverId = server.id → row.terminatedAt = none →
    ∀ other ∈ db.serverInstances, other.serverId = server.id → other ≠ row →
      other.fencingToken < row.fencingToken
  current : ∀ id, server.currentSnapshotId = some id → ∃ snapshot ∈ db.snapshots,
    snapshot.id = id ∧ snapshot.serverId = server.id ∧ ∀ other ∈ db.snapshots,
      other.serverId = server.id → other.fencingToken ≤ snapshot.fencingToken
  unpublished : server.currentSnapshotId = none ↔
    ∀ snapshot ∈ db.snapshots, snapshot.serverId ≠ server.id
  result : ∀ row ∈ db.serverInstances, row.serverId = server.id → ∀ id,
    row.resultSnapshotId = some id ↔ ∃ snapshot ∈ db.snapshots, snapshot.id = id ∧
      snapshot.serverInstanceId = row.id ∧ snapshot.fencingToken = row.fencingToken
  source : ∀ row ∈ db.serverInstances, row.serverId = server.id → ∀ id,
    row.sourceSnapshotId = some id → ∃ earlier ∈ db.serverInstances,
      earlier.serverId = server.id ∧ earlier.fencingToken < row.fencingToken ∧
      earlier.resultSnapshotId = some id ∧ ∀ other ∈ db.serverInstances,
        other.serverId = server.id → other.fencingToken < row.fencingToken →
        other.resultSnapshotId.isSome → other.fencingToken ≤ earlier.fencingToken
  first : ∀ row ∈ db.serverInstances, row.serverId = server.id →
    (row.sourceSnapshotId = none ↔ ∀ other ∈ db.serverInstances, other.serverId = server.id →
      other.fencingToken < row.fencingToken → other.resultSnapshotId = none)
  settled : ∀ row ∈ db.serverInstances, row.serverId = server.id → row.terminatedAt.isSome →
    row.dataPreparedAt.isSome → row.resultSnapshotId.isSome

section Linear

variable {db : Database} {server : ServerRow}

theorem published_iff (lineage : Lineage db) (keyed : Keyed db) {row : ServerInstance}
    (member : row ∈ db.serverInstances) (id : String) :
    row.resultSnapshotId = some id ↔ ∃ snapshot ∈ db.snapshots, snapshot.id = id ∧
      snapshot.serverInstanceId = row.id ∧ snapshot.fencingToken = row.fencingToken := by
  constructor
  · intro published
    obtain ⟨snapshot, stored, named, owner, -, token⟩ := lineage.instanceSnapshot row member id published
    exact ⟨snapshot, stored, named, owner, token⟩
  · rintro ⟨snapshot, stored, rfl, owner, -⟩
    obtain ⟨other, present, named, -, -, result⟩ := lineage.snapshotInstance snapshot stored
    rwa [keyed.instanceIds.eq_of_key present member (named.trans owner)] at result

theorem snapshot_published (lineage : Lineage db) (keyed : Keyed db) (stored : server ∈ db.servers)
    {snapshot : SnapshotRow} (member : snapshot ∈ db.snapshots)
    (owner : snapshot.serverId = server.id) :
    ∃ row, Published db.serverInstances server.id server.nextFencingToken row ∧
      row.resultSnapshotId = some snapshot.id ∧ row.fencingToken = snapshot.fencingToken := by
  obtain ⟨row, present, -, sameServer, token, result⟩ := lineage.snapshotInstance snapshot member
  obtain ⟨other, numbered, named, below⟩ := lineage.numbered row present
  obtain rfl := keyed.serverIds.eq_of_key numbered stored (named.trans (sameServer.trans owner))
  exact ⟨row, ⟨present, sameServer.trans owner, below, by simp [result]⟩, result, token⟩

theorem linear_of_consistent (consistent : Consistent db) (stored : server ∈ db.servers) :
    Linear db server := by
  obtain ⟨keyed, lineage, -⟩ := consistent
  have tokens : ∀ first ∈ db.serverInstances, ∀ second ∈ db.serverInstances,
      first.serverId = server.id → second.serverId = server.id →
      first.fencingToken = second.fencingToken → first = second := by
    intro first left second right here there same
    exact lineage.tokens.eq_of_key left right (by rw [here, there, same])
  have current := lineage.current server stored
  refine
    { distinct := tokens
      below := fun row member owner => ?_
      active := fun row member owner running other present owner' different => ?_
      current := fun id known => ?_
      unpublished := ⟨fun unknown snapshot member owner => ?_, fun none => ?_⟩
      result := fun row member _ id => published_iff lineage keyed member id
      source := fun row member owner id known => ?_
      first := fun row member owner => ⟨fun unknown other present owner' older => ?_, fun none => ?_⟩
      settled := fun row member _ ended prepared => lineage.settled row member ended prepared }
  · obtain ⟨other, numbered, named, below⟩ := lineage.numbered row member
    rwa [keyed.serverIds.eq_of_key numbered stored (named.trans owner)] at below
  · have bound := lineage.latest row member running other present (owner'.trans owner.symm)
    exact lt_of_le_of_ne bound fun same => different (tokens other present row member owner' owner same)
  · rw [known] at current
    obtain ⟨row, ⟨member, owner, -⟩, result, greatest⟩ := current
    obtain ⟨snapshot, kept, named, -, sameServer, token⟩ := lineage.instanceSnapshot row member id result
    refine ⟨snapshot, kept, named, sameServer.trans owner, fun other present owner' => ?_⟩
    obtain ⟨author, published, -, authored⟩ := snapshot_published lineage keyed stored present owner'
    rw [token, ← authored]
    exact greatest author published
  · rw [unknown] at current
    obtain ⟨row, published, -⟩ := snapshot_published lineage keyed stored member owner
    exact current row published
  · cases known : server.currentSnapshotId with
    | none => rfl
    | some id =>
      rw [known] at current
      obtain ⟨row, ⟨member, owner, -⟩, result, -⟩ := current
      obtain ⟨snapshot, kept, -, -, sameServer, -⟩ := lineage.instanceSnapshot row member id result
      exact absurd (sameServer.trans owner) (none snapshot kept)
  · have source := lineage.source row member
    rw [known] at source
    obtain ⟨earlier, ⟨present, owner', older, -⟩, result, greatest⟩ := source
    refine ⟨earlier, present, owner'.trans owner, older, result, fun other stored' owner'' older' made => ?_⟩
    exact greatest other ⟨stored', owner''.trans owner.symm, older', made⟩
  · have source := lineage.source row member
    rw [unknown] at source
    have absent := source other
    by_contra made
    exact absent ⟨present, owner'.trans owner.symm, older, Option.isSome_iff_ne_none.mpr made⟩
  · have source := lineage.source row member
    cases known : row.sourceSnapshotId with
    | none => rfl
    | some id =>
      rw [known] at source
      obtain ⟨earlier, ⟨present, owner', older, made⟩, -, -⟩ := source
      rw [none earlier present (owner'.trans owner) older] at made
      cases made

end Linear

theorem snapshot_lineage_is_linear (setup : Setup) (run : Run) :
    (∀ server ∈ (reached setup run).state.db.servers, Linear (reached setup run).state.db server) ∧
    ∀ compute params, .executed compute (.restoreData params) ∈ (reached setup run).state.log →
      ∃ row ∈ (reached setup run).state.db.serverInstances,
        params.identity = identity row ∧ params.serverId = row.serverId.uuid ∧
        params.sourceSnapshotId = row.sourceSnapshotId := by
  have inv := reached_inv setup run
  refine ⟨fun server stored => linear_of_consistent inv.history.current stored, ?_⟩
  intro compute params member
  obtain ⟨earlier, explained⟩ := inv.log.of_mem member
  obtain ⟨row, present, -, fit, -⟩ := explained.1
  rw [show params = _ from fit]
  exact ⟨row, present, rfl, rfl, rfl⟩

end McServer.System
