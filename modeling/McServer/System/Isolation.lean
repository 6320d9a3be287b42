import McServer.System.Histories
import McServer.System.Publication

set_option autoImplicit false

namespace McServer.System

open Domain Store Agent ControlPlane Interleaving

theorem eq_of_separated_heads {A : Type} {separator : A} {first second rest other : List A}
    (left : separator ∉ first) (right : separator ∉ second)
    (opens : first ++ separator :: rest <+: second ++ separator :: other) : first = second := by
  induction first generalizing second with
  | nil =>
    cases second with
    | nil => rfl
    | cons head tail =>
      rw [List.nil_append, List.cons_append, List.cons_prefix_cons] at opens
      exact absurd (by simp [opens.1]) right
  | cons head tail ih =>
    cases second with
    | nil =>
      rw [List.nil_append, List.cons_append, List.cons_prefix_cons] at opens
      exact absurd (by simp [opens.1]) left
    | cons head' tail' =>
      rw [List.cons_append, List.cons_append, List.cons_prefix_cons] at opens
      rw [opens.1, ih (fun member => left (List.mem_cons_of_mem _ member))
        (fun member => right (List.mem_cons_of_mem _ member)) opens.2]

theorem slash_notMem_name (name : ServerName) : '/' ∉ name.asStr.toList := by
  intro member
  have valid := name.valid
  simp only [ServerName.isValid, Bool.and_eq_true, List.all_eq_true] at valid
  exact absurd (valid.2 '/' member) (by decide)

def managedPrefix (name : ServerName) : String := "servers/" ++ name.asStr ++ "/restic/"

theorem managedPrefix_opens {first second : ServerName}
    (opens : (managedPrefix first).toList <+: (managedPrefix second).toList) : first = second := by
  have split : ∀ name : ServerName, (managedPrefix name).toList =
      "servers/".toList ++ (name.asStr.toList ++ '/' :: "restic/".toList) := by
    intro name
    simp [managedPrefix]
  rw [split, split, List.prefix_append_right_inj] at opens
  exact ServerName.ext_asStr (String.toList_inj.mp
    (eq_of_separated_heads (slash_notMem_name first) (slash_notMem_name second) opens))

def KeepsPath (manager : R2TemporaryCredentialManager) : Prop :=
  ∀ (name : ServerName) (url : Url),
    manager.parseUrl ("https://" ++ R2Config.host manager.config.accountId ++ "/" ++ manager.config.bucket ++
      "/servers/" ++ name.asStr ++ "/restic") = some url →
    url.path = "/" ++ manager.config.bucket ++ "/servers/" ++ name.asStr ++ "/restic"

theorem splitOn_of_head {value : List Char} {rest : List (List Char)}
    (first : value.splitOn '/' = value :: rest) : rest = [] := by
  have joined : ['/'].intercalate (value.splitOn '/') = value := List.intercalate_splitOn '/'
  rw [first] at joined
  cases rest with
  | nil => rfl
  | cons next more =>
    have length := congrArg List.length joined
    simp [List.intercalate] at length

theorem splitAt_managed (bucket : String) (name : ServerName) :
    Text.splitAt '/' (bucket ++ "/servers/" ++ name.asStr ++ "/restic") =
      Text.splitAt '/' bucket ++ ["servers", name.asStr, "restic"] := by
  have pieces : (bucket ++ "/servers/" ++ name.asStr ++ "/restic").toList =
      bucket.toList ++ '/' :: ("servers".toList ++ '/' :: (name.asStr.toList ++ '/' :: "restic".toList)) := by
    simp
  unfold Text.splitAt
  rw [pieces, List.splitOn_append_cons_self, List.splitOn_append_cons_self_of_not_mem (by decide),
    List.splitOn_append_cons_self_of_not_mem (slash_notMem_name name),
    List.splitOn_eq_singleton (show '/' ∉ "restic".toList by decide)]
  simp

theorem prefixOfSegments_managed {repository bucket keyPrefix : String} {name : ServerName}
    (given : prefixOfSegments repository bucket
      (Text.splitAt '/' bucket ++ ["servers", name.asStr, "restic"]) = .ok keyPrefix) :
    keyPrefix = managedPrefix name := by
  cases pieces : bucket.toList.splitOn '/' with
  | nil => exact absurd pieces (List.splitOn_ne_nil _ _)
  | cons head rest =>
    simp only [Text.splitAt, pieces, List.map_cons, List.cons_append, prefixOfSegments] at given
    by_cases same : String.ofList head = bucket
    · have whole : head = bucket.toList := by rw [← same, String.toList_ofList]
      rw [whole] at pieces
      have kept : dropTrailingEmpty (List.map String.ofList [] ++ ["servers", name.asStr, "restic"]) =
          ["servers", name.asStr, "restic"] := rfl
      rw [if_neg (not_not_intro same), splitOn_of_head pieces, kept] at given
      split at given
      · cases given
      · have joined : "/".intercalate ["servers", name.asStr, "restic"] ++ "/" = managedPrefix name := by
          simp [managedPrefix, ← String.toList_inj]
        rw [joined] at given
        cases valid : validatePrefix (managedPrefix name) with
        | error error =>
          rw [valid] at given
          cases given
        | ok _ =>
          rw [valid] at given
          injection given with same
          exact same.symm
    · rw [if_pos same] at given
      cases given

theorem repositoryPrefix_managed {manager : R2TemporaryCredentialManager} (keeps : KeepsPath manager)
    {name : ServerName} {keyPrefix : String}
    (given : repositoryPrefix manager.parseUrl
      (manager.config.repositoryBase ++ "/servers/" ++ name.asStr ++ "/restic")
      manager.config.accountId manager.config.bucket = .ok keyPrefix) :
    keyPrefix = managedPrefix name := by
  have written : manager.config.repositoryBase ++ "/servers/" ++ name.asStr ++ "/restic" =
      "s3:" ++ ("https://" ++ R2Config.host manager.config.accountId ++ "/" ++ manager.config.bucket ++
        "/servers/" ++ name.asStr ++ "/restic") := by
    rw [show R2Config.repositoryBase manager.config = "s3:" ++ ("https://" ++
      (R2Config.host manager.config.accountId ++ ("/" ++ manager.config.bucket))) by
        simp [R2Config.repositoryBase, ← String.toList_inj]]
    simp only [String.append_assoc]
  rw [repositoryPrefix, written, Text.stripStart_append, Option.bind_some] at given
  split at given
  · cases given
  · rename_i url parsed
    split at given
    · cases given
    · rw [keeps name url parsed] at given
      simp only [String.append_assoc, Text.stripStart_append, Option.getD_some] at given
      split at given
      · cases given
      · simp only [← String.append_assoc] at given
        rw [splitAt_managed] at given
        exact prefixOfSegments_managed given

section Apart

variable (setup : Setup)

def OutOfReach (compute : ComputeSpec) (repository : String) : Prop :=
  compute = .local ∨ ∀ manager keyPrefix, setup.r2Credentials = some manager →
    repositoryPrefix manager.parseUrl repository manager.config.accountId manager.config.bucket ≠
      .ok keyPrefix

structure Separated (name : ServerName) (spec : ServerSpec) : Prop where
  managed : spec.data.backend = .r2Restic → ∀ manager, setup.r2Credentials = some manager →
    spec.data.repository = manager.config.repositoryBase ++ "/servers/" ++ name.asStr ++ "/restic"
  own : spec.data.backend = .localRestic → OutOfReach setup spec.compute spec.data.repository

theorem separated_of_resolved {name : ServerName} {desired : DesiredServerSpec}
    {existingData : Option DataSpec} {r2Repository : Option String} {spec : ServerSpec}
    (asked : ∀ repository, desired.data = .localRestic repository →
      OutOfReach setup desired.compute repository)
    (accepted : desired.resolve existingData r2Repository = .ok spec)
    (managed : spec.data.backend = .r2Restic → ∀ manager, setup.r2Credentials = some manager →
      spec.data.repository = manager.config.repositoryBase ++ "/servers/" ++ name.asStr ++ "/restic") :
    Separated setup name spec := by
  obtain ⟨resolved, compute, -⟩ := DesiredServerSpec.resolve_iff.mp accepted
  refine ⟨managed, fun ownRepository => ?_⟩
  rw [compute]
  exact asked _ (DesiredDataSpec.resolve_local resolved ownRepository)

def Policy.separating : Policy setup where
  admits desired := ∀ repository, desired.data = .localRestic repository →
    OutOfReach setup desired.compute repository
  admissible := Separated setup
  created name desired spec asked accepted := by
    refine separated_of_resolved setup asked accepted fun managed manager configured => ?_
    have resolved := (DesiredServerSpec.resolve_iff.mp accepted).1
    simp only [ServerService.r2Repository, Setup.r2RepositoryBase, configured, Option.map_some] at resolved
    cases asksFor : desired.data with
    | localRestic repository =>
      rw [asksFor] at resolved
      injection resolved with same
      rw [← same] at managed
      cases managed
    | r2Restic =>
      rw [asksFor] at resolved
      injection resolved with same
      rw [← same]
  applied name desired old spec asked before accepted := by
    refine separated_of_resolved setup asked accepted ?_
    rw [DesiredServerSpec.resolve_existing accepted]
    exact before.managed
  issuers manager := setup.r2Credentials = some manager
  configured _ configured := configured

def Remote (db : Database) : Prop :=
  ∀ row ∈ db.computeInstances, row.provider = .akamai → ∀ found ∈ db.serverInstances,
    found.id = row.serverInstanceId → found.resolvedSpec.compute ≠ .local

end Apart

section Reached

variable {setup : Setup} {policy : Policy setup}

theorem Remote.after_statement {world : World} {statement : DbOp} (remote : Remote world.db)
    (inv : Inv setup policy world) (issuable : Issuable setup policy world statement) :
    Remote (statement.query world.db).2 := by
  have consistent := inv.history.current
  have effect := query_effect issuable.1
  have unique := (effect.consistent issuable.1 consistent).keyed.instanceIds
  have evolved := effect.evolved consistent.keyed
  -- The instance a compute belonged to is still the only one with its id.
  have kept : ∀ row ∈ world.db.computeInstances, row.provider = .akamai →
      ∀ found ∈ (statement.query world.db).2.serverInstances, found.id = row.serverInstanceId →
        found.resolvedSpec.compute ≠ .local := by
    intro row stored akamai found present named
    obtain ⟨old, member, owner, -⟩ := consistent.allocation.owner row stored
    obtain ⟨new, member', later⟩ := evolved.instances old member
    rw [unique.eq_of_key present member' (named.trans (owner.symm.trans later.id.symm)), later.spec]
    exact remote row stored akamai old member owner
  generalize (statement.query world.db).2 = after at effect kept ⊢
  cases effect with
  | @computeInserted row active check free enrolled first owner issued =>
    intro compute stored akamai found present named
    rcases List.mem_append.mp stored with old | new
    · exact kept compute old akamai found present named
    · obtain rfl := List.mem_singleton.mp new
      obtain ⟨connection, enrollment, now, rfl⟩ := issued
      exact issuable.2.2.2.2.2 akamai found present named
  | @computesUpdated selects set writes =>
    intro compute stored akamai found present named
    obtain ⟨old, member, ⟨chosen, rfl⟩ | ⟨-, rfl⟩⟩ := Table.mem_update.mp stored
    · have write := writes old member chosen
      rw [write.owner] at named
      rw [write.provider] at akamai
      exact kept old member akamai found present named
    · exact kept compute member akamai found present named
  | _ => exact kept

theorem reached_remote {run : Run} (admitted : Admitted policy run) :
    Remote (reached setup run).state.db :=
  run_database (fun db _ => Remote db) (fun _ _ => True)
    (fun _ _ inv issuable _ remote => remote.after_statement inv issuable) (fun _ _ remote => remote)
    admitted (along_anything run _) (initial_respected setup _) (fun _ stored => nomatch stored)

end Reached

def WorksFor (db : Database) (compute : ComputeInstanceId) (server : ServerId) : Prop :=
  ∃ row ∈ db.computeInstances, row.id = compute ∧
    ∃ found ∈ db.serverInstances, found.id = row.serverInstanceId ∧ found.serverId = server

theorem worksFor_of_columns {db : Database} {compute : ComputeInstanceId} {server : ServerId}
    (owner : ServerInstanceId)
    (computes : (compute, owner) ∈ db.computeInstances.map fun row => (row.id, row.serverInstanceId))
    (instances : (owner, server) ∈ db.serverInstances.map fun row => (row.id, row.serverId)) :
    WorksFor db compute server := by
  obtain ⟨row, stored, same⟩ := List.mem_map.mp computes
  obtain ⟨found, present, same'⟩ := List.mem_map.mp instances
  simp only [Prod.mk.injEq] at same same'
  exact ⟨row, stored, same.1, found, present, same'.1.trans same.2.symm, same'.2⟩

theorem WorksFor.unique {db : Database} (keyed : Keyed db) {compute : ComputeInstanceId}
    {first second : ServerId} (left : WorksFor db compute first) (right : WorksFor db compute second) :
    first = second := by
  obtain ⟨row, stored, named, found, present, owner, rfl⟩ := left
  obtain ⟨row', stored', named', found', present', owner', rfl⟩ := right
  obtain rfl := keyed.computeIds.eq_of_key stored stored' (named.trans named'.symm)
  rw [keyed.instanceIds.eq_of_key present present' (owner.trans owner'.symm)]

structure Isolated (world : World) : Prop where
  agents : ∀ first second keyPrefix other, .credentialsIssued first keyPrefix ∈ world.log →
    .credentialsIssued second other ∈ world.log → ∀ server server', WorksFor world.db first server →
      WorksFor world.db second server' → server ≠ server' → ¬ keyPrefix.toList <+: other.toList
  servers : ∀ compute keyPrefix, .credentialsIssued compute keyPrefix ∈ world.log →
    ∀ id, WorksFor world.db compute id → ∀ other ∈ world.db.servers, other.id ≠ id →
      ¬ keyPrefix.toList <+: (managedPrefix other.name).toList ∧
        ¬ (managedPrefix other.name).toList <+: keyPrefix.toList

theorem issued_earlier {setup : Setup} {world : World} (inv : Inv setup (Policy.separating setup) world)
    (remote : Remote world.db)
    (keeps : ∀ manager, setup.r2Credentials = some manager → KeepsPath manager)
    {compute : ComputeInstanceId} {keyPrefix : String}
    (issued : .credentialsIssued compute keyPrefix ∈ world.log) :
    ∃ server ∈ world.db.servers, WorksFor world.db compute server.id ∧
      keyPrefix = managedPrefix server.name := by
  obtain ⟨later, earlier, split⟩ := List.append_of_mem issued
  obtain ⟨manager, configured, row, stored, named, akamai, found, present, owner, given⟩ :=
    inv.log _ _ ⟨later, split.symm⟩
  obtain ⟨server, member, served, separated⟩ := inv.specified.instances found present
  refine ⟨server, member, ⟨row, stored, named, found, present, owner, served.symm⟩, ?_⟩
  cases backend : found.resolvedSpec.data.backend with
  | localRestic =>
    rcases separated.own backend with here | closed
    · exact absurd here (remote row stored akamai found present owner)
    · exact absurd given (closed manager keyPrefix configured)
  | r2Restic =>
    rw [separated.managed backend manager configured] at given
    exact repositoryPrefix_managed (keeps manager configured) given

theorem credentials_are_isolated (setup : Setup)
    (keeps : ∀ manager, setup.r2Credentials = some manager → KeepsPath manager) (run : Run)
    (separate : Admitted (Policy.separating setup) run) : Isolated (reached setup run).state := by
  have inv := (reached_respected (Policy.separating setup) separate).1
  have keyed := inv.history.current.keyed
  have issued := @issued_earlier setup _ inv (reached_remote separate) keeps
  constructor
  · intro first second keyPrefix other given given' server server' serves serves' different opens
    obtain ⟨row, stored, works, rfl⟩ := issued given
    obtain ⟨row', stored', works', rfl⟩ := issued given'
    rw [serves.unique keyed works, serves'.unique keyed works',
      keyed.serverNames.eq_of_key stored stored' (managedPrefix_opens opens)] at different
    exact different rfl
  · intro compute keyPrefix given id serves other stored different
    obtain ⟨row, stored', works, rfl⟩ := issued given
    rw [serves.unique keyed works] at different
    constructor
    · intro opens
      rw [keyed.serverNames.eq_of_key stored' stored (managedPrefix_opens opens)] at different
      exact different rfl
    · intro opens
      rw [keyed.serverNames.eq_of_key stored stored' (managedPrefix_opens opens)] at different
      exact different rfl

theorem run_extends (setup : Setup) (run : Run) (config : Config Thread Op Op.Res World) :
    Extends config.state ((machine setup).run run config).state := by
  induction run generalizing config with
  | nil => exact Extends.refl _
  | cons event rest ih =>
    refine Extends.trans ?_ (ih _)
    cases event with
    | advance thread choice =>
      simp only [Machine.step]
      split
      · exact Extends.refl _
      · exact exec_extends _ _ _
    | start thread task =>
      simp only [Machine.step]
      split <;> exact Extends.refl _
    | environment action => exact environment_extends _ setup action
    | crash => exact Extends.same rfl rfl

theorem reached_append (setup : Setup) (first second : Run) :
    reached setup (first ++ second) = (machine setup).run second (reached setup first) :=
  Machine.run_append (machine setup) first second _

-- A run and what the state it reaches is like.
structure Evaluated (setup : Setup) (holds : World → Prop) where
  run : Run
  outcome : holds (reached setup run).state

namespace Sample

def account : String := "0123456789abcdef0123456789abcdef"

def credentialManager : R2TemporaryCredentialManager where
  config :=
    { accountId := account, bucket := "minecraft", temporaryCredentialTtlSeconds := 3600
      runtimeEnvironment := [] }
  parseUrl text := (Text.stripStart ("https://" ++ R2Config.host account) text).map fun path =>
    { scheme := "https", host := some (R2Config.host account), port := none, username := ""
      password := none, query := none, fragment := none, path }

theorem credentialManager_keepsPath : KeepsPath credentialManager := by
  intro name url parsed
  have written : "https://" ++ R2Config.host account ++ "/" ++ "minecraft" ++ "/servers/" ++ name.asStr ++
      "/restic" = ("https://" ++ R2Config.host account) ++
        ("/" ++ "minecraft" ++ "/servers/" ++ name.asStr ++ "/restic") := by
    simp only [String.append_assoc]
  simp only [credentialManager, written, Text.stripStart_append] at parsed
  injection parsed with same
  rw [← same]
  rfl

def akamaiManager : AkamaiManager where
  config :=
    { scope := "default", liveEnabled := true, loopbackApi := false, reapOrphansOnStart := true
      allowedRegions := ["osa"], allowedImages := ["deb"], allowedInstanceTypes := ["g6"]
      allowedFirewallIds := [1], maxActiveInstances := 2, maxInstanceLifetimeMillis := 86400000 }
  remote :=
    { authorizedKeysFile := "authorized_keys", tlsCaCertificate := "ca.pem"
      certificateValidityMillis := 86400000 }

def remoteSetup : Setup :=
  { setup with
    manager := { setup.manager with akamai := some akamaiManager }
    certificateValidityMillis := some 86400000
    r2Credentials := some credentialManager }

def remoteSpec (data : DesiredDataSpec) : DesiredServerSpec where
  compute := .akamai "osa" "g6" "deb" 1
  process := { (spec "1").process with containerImage := "mc", serverType := "FORGE" }
  data

def remoteChoice (uuid : Nat) : Choice :=
  { choice uuid with
    answers :=
      { image :=
          { id := "deb", status := "available", deprecated := false, capabilities := ["cloud-init"] }
        region := { id := "osa", capabilities := ["Metadata"] }
        instanceType := "g6"
        firewall := { id := 1, status := "enabled" }
        firewalls := [{ id := 1, status := "enabled" }]
        ipv4 := []
        error := .http }
    file := .ok "key"
    signed := .ok { leafPem := "leaf", caPem := "ca", leafDer := [UInt8.ofNat uuid] }
    credentials := .ok
      { accessKeyId := "key", secretAccessKey := "secret", sessionToken := "session" } }

def works (thread : Thread) (task : Task) (uuid steps : Nat) : Run :=
  .start thread task :: List.replicate steps (.advance thread (remoteChoice uuid))

def connects (method : AgentMethod) (certificate : Option (List UInt8)) (uuid steps : Nat) : Run :=
  works (.connection 0)
    (.connect .akamai { id := .present, validVersion := true, method } certificate) uuid steps

def token (uuid : Nat) : String :=
  Uuid.simple (BitVec.ofNat 128 uuid) ++ Uuid.simple (BitVec.ofNat 128 uuid)

-- Every id of the server is the same number; after 40 steps its machine is there.
def rents (name : String) (data : DesiredDataSpec) (uuid steps : Nat) : Run :=
  works (.client 0) (.request (.create name (remoteSpec data))) uuid 5 ++
    works (.client 0) (.request (.setDesiredState name .running none)) uuid 5 ++
    works .worker (.reconcile ⟨BitVec.ofNat 128 uuid⟩) uuid steps

-- From the request to the registration of the agent.
def joins (name : String) (data : DesiredDataSpec) (uuid : Nat) : Run :=
  rents name data uuid 16 ++ [.crash] ++
    connects (.enroll (some
      { protocolVersion := 3, computeInstanceId := ⟨BitVec.ofNat 128 uuid⟩
        enrollmentToken := token uuid
        certificateSigningRequestPem :=
          "-----BEGIN CERTIFICATE REQUEST----------END CERTIFICATE REQUEST-----" })) none uuid 7 ++
    connects (.register (some
      { protocolVersion := 3, computeInstanceId := ⟨BitVec.ofNat 128 uuid⟩
        connectionToken := token uuid })) (some [UInt8.ofNat uuid]) uuid 9

theorem works_admitted {setup : Setup} {policy : Policy setup} (thread : Thread) (task : Task)
    (uuid steps : Nat) (admitted : policy.admitsTask thread task) :
    Admitted policy (works thread task uuid steps) := by
  intro event member
  rcases List.mem_cons.mp member with rfl | later
  · exact admitted
  · rw [List.eq_of_mem_replicate later]
    trivial

theorem joins_admitted {setup : Setup} {policy : Policy setup} {data : DesiredDataSpec}
    (admitted : policy.admits (remoteSpec data)) (name : String) (uuid : Nat) :
    Admitted policy (joins name data uuid) := by
  simp only [Admitted, joins, rents, connects, List.forall_mem_append, List.forall_mem_singleton]
  refine ⟨⟨⟨⟨⟨?_, ?_⟩, ?_⟩, trivial⟩, ?_⟩, ?_⟩
  · exact works_admitted _ _ _ _ admitted
  all_goals exact works_admitted _ _ _ _ trivial

def issuedTo (compute : ComputeInstanceId) (keyPrefix : String) : Entry → Bool
  | .credentialsIssued other given => other = compute && given = keyPrefix
  | _ => false

theorem mem_of_issuedTo {log : List Entry} {compute : ComputeInstanceId} {keyPrefix : String}
    (issued : log.any (issuedTo compute keyPrefix) = true) :
    .credentialsIssued compute keyPrefix ∈ log := by
  obtain ⟨entry, member, same⟩ := List.any_eq_true.mp issued
  cases entry with
  | credentialsIssued other given =>
    simp only [issuedTo, Bool.and_eq_true, decide_eq_true_eq] at same
    rw [← same.1, ← same.2]
    exact member
  | _ => cases same

def tenants : Run := joins "b" .r2Restic 1 ++ joins "a" .r2Restic 2

-- The repository of a server on a machine of the provider is the one kept for another server.
def trespass : Run :=
  joins "b" .r2Restic 1 ++ joins "a" (.localRestic
    "s3:https://0123456789abcdef0123456789abcdef.r2.cloudflarestorage.com/minecraft/servers/b/restic") 2

def Trespassed (state : World) : Prop :=
  (reached remoteSetup (joins "b" .r2Restic 1)).state.log.any (issuedTo ⟨1⟩ "servers/b/restic/") = true ∧
    state.log.any (issuedTo ⟨2⟩ "servers/b/restic/") = true ∧
    state.db.computeInstances.map (fun row => (row.id, row.serverInstanceId)) = [(⟨1⟩, ⟨1⟩), (⟨2⟩, ⟨2⟩)] ∧
    state.db.serverInstances.map (fun row => (row.id, row.serverId)) = [(⟨1⟩, ⟨1⟩), (⟨2⟩, ⟨2⟩)]

def trespassed : Evaluated remoteSetup Trespassed where
  run := trespass
  outcome := by
    -- The first part of the run is evaluated once.
    rw [trespass, reached_append]
    unfold Trespassed
    decide +kernel

theorem issued_first {run more : Run} (continued : run = joins "b" .r2Restic 1 ++ more) :
    .credentialsIssued ⟨1⟩ "servers/b/restic/" ∈ (reached remoteSetup run).state.log := by
  rw [continued, reached_append]
  exact (run_extends remoteSetup more _).log.subset (mem_of_issuedTo trespassed.outcome.1)

end Sample

theorem two_servers_are_isolated :
    .credentialsIssued ⟨1⟩ "servers/b/restic/" ∈ (reached Sample.remoteSetup Sample.tenants).state.log ∧
      Isolated (reached Sample.remoteSetup Sample.tenants).state := by
  refine ⟨Sample.issued_first Sample.tenants.eq_1, credentials_are_isolated Sample.remoteSetup ?_ _ ?_⟩
  · intro manager configured
    injection configured with same
    rw [← same]
    exact Sample.credentialManager_keepsPath
  · exact List.forall_mem_append.mpr
      ⟨Sample.joins_admitted (by rintro _ ⟨⟩) _ _, Sample.joins_admitted (by rintro _ ⟨⟩) _ _⟩

theorem trespass_is_not_isolated : ¬ Isolated (reached Sample.remoteSetup Sample.trespass).state := by
  obtain ⟨-, second, computes, instances⟩ : Sample.Trespassed (reached Sample.remoteSetup Sample.trespass).state :=
    Sample.trespassed.outcome
  intro isolated
  exact isolated.agents ⟨2⟩ ⟨1⟩ _ _ (Sample.mem_of_issuedTo second) (Sample.issued_first Sample.trespass.eq_1) ⟨2⟩ ⟨1⟩
    (worksFor_of_columns ⟨2⟩ (by rw [computes]; decide) (by rw [instances]; decide))
    (worksFor_of_columns ⟨1⟩ (by rw [computes]; decide) (by rw [instances]; decide))
    (by decide) (List.prefix_refl _)

end McServer.System
