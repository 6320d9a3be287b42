import McServer.System.Isolation
import McServer.System.Renting
import McServer.System.Rows

set_option autoImplicit false

namespace McServer.System

open Domain Store Agent ControlPlane Interleaving

-- `ensure_for_instance` finds the recorded machine gone, and none under the label.
structure Recreates (found : ServerInstance) (row : ComputeRow) (world : World) : Prop where
  stored : found ∈ world.db.serverInstances
  unprepared : found.dataPreparedAt = none
  member : row ∈ world.db.computeInstances
  owned : row.serverInstanceId = found.id
  remote : row.provider = .akamai
  running : row.terminatedAt = none
  gone : ∃ recorded ∈ row.providerInstanceId, ∃ id ∈ Text.parseU64 recorded, world.provider.find id = none
  vacant : Vacant row.id world

abbrev Awaits (row : ComputeRow) (world : World) : Prop :=
  ∃ other ∈ world.db.computeInstances, other.id = row.id ∧ other.provider = row.provider ∧
    other.terminatedAt = none ∧ other.createdAt = row.createdAt ∧
    other.enrollmentToken = row.enrollmentToken ∧ other.agentCsrPem = row.agentCsrPem

-- The machine made in its place.
structure Newcomer (remote : RemoteAgentConfig) (validity : Nat) (row : ComputeRow) where
  since : Nat
  number : Nat
  csr : String
  files : Nat → Choice
  choices : Nat → Choice
  valid : AgentCertificateAuthority.validateCsr csr = .ok ()
  fresh : row.agentCsrPem ≠ some csr
  keys : ∃ keys, ∀ world,
    (runAll exec files (readAuthorizedKeys remote.authorizedKeysFile) world).1 = .ok keys
  ca : ∃ ca, readBounded remote.tlsCaCertificate maxCaBytes (files 1) = .ok ca ∧
    Text.containsNul ca = false
  calm : ∀ count, (choices count).fault = .none
  signs : ∀ first second, ∃ now files signed, (choices first).now = .ok now ∧
    (choices second).signed = .ok files ∧
    AgentCertificateAuthority.certificate validity files now = .ok signed ∧
    bytesWithin 65536 signed.certificateChainPem = true ∧
    (1 ≤ signed.leafDer.length ∧ signed.leafDer.length ≤ 65536) ∧ row.createdAt ≤ signed.expiresAt

section Joining

variable {setup : Setup} {remote : RemoteAgentConfig} {validity : Nat} {row : ComputeRow}

def Newcomer.request (newcomer : Newcomer remote validity row) (bootstrap : UserData) : EnrollParams where
  protocolVersion := protocolVersion
  computeInstanceId := bootstrap.computeInstanceId
  enrollmentToken := bootstrap.enrollmentToken
  certificateSigningRequestPem := newcomer.csr

def Newcomer.connection (newcomer : Newcomer remote validity row) (bootstrap : UserData) : Connection where
  request :=
    { id := .present, validVersion := true, method := .enroll (some (newcomer.request bootstrap)) }
  peerCertificateDer := none
  since := newcomer.since
  number := newcomer.number

def Newcomer.enroll (newcomer : Newcomer remote validity row) (setup : Setup) (bootstrap : UserData)
    (world : World) : World :=
  (runAll exec newcomer.choices ((newcomer.connection bootstrap).handle (setup.context .akamai)) world).2

-- What an enrollment adds to the log when the control plane answers it.
def Newcomer.Answered (newcomer : Newcomer remote validity row) (setup : Setup) (bootstrap : UserData)
    (world : World) (response : AgentResponse) : Prop :=
  ∃ window, (newcomer.enroll setup bootstrap world).log =
    .answered (newcomer.connection bootstrap).request none response window :: world.log

def Newcomer.Joins (newcomer : Newcomer remote validity row) (setup : Setup) (scope : String)
    (found : ServerInstance) (world later : World) : Prop :=
  ∃ bootstrap result,
    (runAll exec newcomer.files (buildBootstrap remote scope found row.toComputeInstance) world).1 =
      .ok bootstrap ∧ newcomer.Answered setup bootstrap.userData later (.enrolled result)

variable (newcomer : Newcomer remote validity row)

theorem passed {E : Type} {condition : Prop} [Decidable condition] {error : E} (fine : ¬ condition) :
    (Try.failIf condition error : Flow E Unit) = Prog.done (.ok ()) :=
  if_neg fine

theorem Newcomer.bootstrap (scope : String) (found : ServerInstance) (compute : ComputeInstance)
    (world : World) :
    ∃ keys, (runAll exec newcomer.files (buildBootstrap remote scope found compute) world).1 =
      compute.enrollmentToken.elim (.error .missingEnrollmentToken) fun enrollmentToken =>
        .ok { authorizedKeys := keys
              userData := { computeInstanceId := compute.id, serverInstanceId := found.id
                            enrollmentToken, providerScope := scope } } := by
  obtain ⟨keys, readable⟩ := newcomer.keys
  obtain ⟨ca, present, clean⟩ := newcomer.ca
  refine ⟨keys, ?_⟩
  have read := readable world
  simp only [buildBootstrap, readAuthorizedKeys, readBoundedFile, Prog.perform, bind, Try.bind, Prog.bind,
    runAll, exec] at read ⊢
  cases text : readBounded remote.authorizedKeysFile maxAuthorizedKeysBytes (newcomer.files 0) with
  | error error =>
    rw [text] at read
    cases read
  | ok text' =>
    rw [text] at read
    dsimp only at read ⊢
    generalize List.filter _ (List.map Text.trim (Text.splitAt '\n' text')) = lines at read ⊢
    unfold Try.failIf at read
    split_ifs at read with empty nul nul <;> cases read
    rw [passed empty]
    dsimp only [Prog.bind]
    rw [passed nul]
    dsimp only [Prog.bind, runAll, exec, pure]
    rw [present]
    dsimp only
    rw [clean, passed Bool.false_ne_true]
    cases compute.enrollmentToken <;> rfl

theorem runAll_statement {E A : Type} (choices : Nat → Choice) {into : RepositoryError → E}
    {statement : DbOp} {next : statement.Value → Flow E A} {world : World} {value : statement.Value}
    {after : Database} (calm : (choices 0).fault = .none)
    (answered : statement.query world.db = (.ok value, after))
    (silent : dbEntries statement (.ok value) = []) :
    runAll exec choices (Try.bind (db into statement) next) world =
      runAll exec (fun count => choices (count + 1)) (next value) (world.store after) := by
  have ran : exec (.db statement) (choices 0) world = (.ok value, world.store after) := by
    simp only [exec, execDb, calm, answered, silent]
    rfl
  change runAll exec _ (Prog.bind (.done ((exec (.db statement) (choices 0) world).1.mapError into)) _)
    (exec (.db statement) (choices 0) world).2 = _
  rw [ran]
  rfl

theorem respond_log {connection : Connection} {choices : Nat → Choice} (response : AgentResponse)
    (calm : (choices 0).fault = .none) (world : World) :
    ∃ window, (runAll exec choices (connection.respond response) world).2.log =
      .answered connection.request connection.peerCertificateDer response window :: world.log := by
  refine ⟨world.window connection.since, ?_⟩
  change (exec (.respond connection.since connection.request connection.peerCertificateDer response)
    (choices 0) world).2.log = _
  simp only [exec, calm]
  rfl

variable {later : World} {other : ComputeRow} {bootstrap : UserData}

structure Asks (other row : ComputeRow) (bootstrap : UserData) : Prop where
  named : bootstrap.computeInstanceId = other.id
  remote : other.provider = .akamai
  running : other.terminatedAt = none
  token : other.enrollmentToken = some bootstrap.enrollmentToken
  csr : other.agentCsrPem = row.agentCsrPem
  created : other.createdAt = row.createdAt

def enrollmentOf (row : ComputeRow) : AgentEnrollment where
  connectionToken := row.connectionToken
  certificateSigningRequestPem := row.agentCsrPem
  certificateChainPem := row.agentCertificateChainPem
  certificateDer := row.agentCertificateDer
  certificateExpiresAt := row.agentCertificateExpiresAt

theorem enrollment_found {db : Database} (keyed : Keyed db) (member : other ∈ db.computeInstances)
    (asks : Asks other row bootstrap) :
    (DbOp.getAgentEnrollment bootstrap.computeInstanceId bootstrap.enrollmentToken).query db =
      (.ok (some (enrollmentOf other)), db) := by
  simp only [DbOp.query, ComputeInstanceRepository.getAgentEnrollment, Store.read, asks.named]
  cases found : db.computeInstances.find? _ with
  | none => simpa [asks.remote, asks.running, asks.token] using List.find?_eq_none.mp found other member
  | some chosen =>
    have same := List.find?_some found
    simp only [Bool.and_eq_true, decide_eq_true_eq] at same
    rw [keyed.computeIds.eq_of_key (List.mem_of_find?_eq_some found) member same.1.1.1]
    rfl

theorem fresh_chain {csr : String} (fresh : other.agentCsrPem ≠ some csr) :
    Connection.recordedChain (enrollmentOf other) csr = none := by
  unfold Connection.recordedChain
  split
  · rename_i recorded _ _ _ known _ _ _
    refine if_neg fun same => fresh ?_
    rw [← same]
    exact known
  · rfl

theorem Newcomer.asked (keyed : Keyed later.db) (member : other ∈ later.db.computeInstances)
    (asks : Asks other row bootstrap) {handler : Connection.Handler Unit}
    (next : (if Connection.isUnrecorded (enrollmentOf other) then (newcomer.connection bootstrap).signAndRecord
        (setup.context .akamai) (newcomer.request bootstrap) (enrollmentOf other)
      else (newcomer.connection bootstrap).reject "Enrollment CSR changed") = handler) :
    newcomer.enroll setup bootstrap later =
      (runAll exec (fun count => newcomer.choices (count + 1)) handler (later.store later.db)).2 := by
  have entered : (newcomer.connection bootstrap).handle (setup.context .akamai) =
      (newcomer.connection bootstrap).enroll (setup.context .akamai) (newcomer.request bootstrap) := by
    simp [Connection.handle, Newcomer.connection, Connection.handleEnrollment, Setup.context,
      Newcomer.request]
  rw [Newcomer.enroll, entered, ← next]
  refine congrArg Prod.snd ?_
  refine (runAll_statement newcomer.choices (newcomer.calm 0) (enrollment_found keyed member asks) rfl).trans ?_
  dsimp only
  rw [show (newcomer.request bootstrap).certificateSigningRequestPem = newcomer.csr from rfl,
    fresh_chain fun same => newcomer.fresh (asks.csr.symm.trans same)]

theorem Newcomer.refused (setup : Setup) (keyed : Keyed later.db) (member : other ∈ later.db.computeInstances)
    (asks : Asks other row bootstrap) (recorded : row.agentCsrPem.isSome) :
    newcomer.Answered setup bootstrap later (.rejected "Enrollment CSR changed") := by
  have known : ¬ Connection.isUnrecorded (enrollmentOf other) = true := by
    rw [← asks.csr] at recorded
    simp [Connection.isUnrecorded, enrollmentOf, Option.isSome_iff_ne_none.mp recorded]
  rw [Newcomer.Answered, newcomer.asked keyed member asks (if_neg known)]
  exact respond_log _ (newcomer.calm 1) _

-- A valid request fits its column.
theorem csr_fits {csr : String} (valid : AgentCertificateAuthority.validateCsr csr = .ok ()) :
    bytesWithin 32768 csr = true := by
  unfold AgentCertificateAuthority.validateCsr at valid
  split_ifs at valid with large malformed
  have short := Text.charCount_le_utf8ByteSize csr
  simp only [AgentCertificateAuthority.maxCsrBytes, not_lt] at large
  simp only [Bool.or_eq_true, Bool.not_eq_true', not_or, Bool.not_eq_true, Bool.not_eq_false] at malformed
  simp only [bytesWithin, Bool.and_eq_true, Bool.not_eq_true', decide_eq_true_eq, malformed.1.1]
  refine ⟨⟨?_, by omega⟩, trivial⟩
  cases letters : csr.toList with
  | nil =>
    rw [String.toList_eq_nil_iff.mp letters] at malformed
    exact absurd malformed.2 (by decide)
  | cons _ _ => rfl

theorem recordAgentCertificate_stored {db : Database} (readable : Readable db) (keyed : Keyed db)
    (member : other ∈ db.computeInstances) (asks : Asks other row bootstrap) (free : row.agentCsrPem = none)
    (certificate : AgentCertificateRecord)
    (csr : bytesWithin 32768 certificate.certificateSigningRequestPem = true)
    (chain : bytesWithin 65536 certificate.certificateChainPem = true)
    (der : 1 ≤ certificate.certificateDer.length ∧ certificate.certificateDer.length ≤ 65536)
    (expires : row.createdAt ≤ certificate.certificateExpiresAt) :
    ∃ after, (DbOp.recordAgentCertificate bootstrap.computeInstanceId bootstrap.enrollmentToken
      certificate).query db = (.ok true, after) := by
  let selects : ComputeRow → Bool := fun chosen => chosen.id = bootstrap.computeInstanceId &&
    chosen.provider = .akamai && chosen.enrollmentToken = some bootstrap.enrollmentToken &&
    chosen.agentCsrPem.isNone && chosen.terminatedAt.isNone
  have named : ∀ chosen, selects chosen = true → chosen.id = bootstrap.computeInstanceId := by
    intro chosen picked
    simp only [selects, Bool.and_eq_true, decide_eq_true_eq] at picked
    exact picked.1.1.1.1
  have one : Table.affected selects db.computeInstances = 1 :=
    (keyed.computeIds.affected_eq_one named).mpr ⟨other, member, by
      simp [selects, asks.named, asks.remote, asks.token, asks.running, asks.csr, free]⟩
  refine ⟨_, (touchedOne_accepted fun chosen stored picked => ?_).trans (by rw [one]; rfl)⟩
  rw [keyed.computeIds.eq_of_key stored member ((named chosen picked).trans asks.named)]
  exact ((readable.computes other member).recordAgentCertificate asks.running asks.remote csr chain der
    (asks.created ▸ expires)).check

theorem Newcomer.accepted (issues : setup.certificateValidityMillis = some validity)
    (readable : Readable later.db) (keyed : Keyed later.db) (member : other ∈ later.db.computeInstances)
    (asks : Asks other row bootstrap) (free : row.agentCsrPem = none) :
    ∃ result, newcomer.Answered setup bootstrap later (.enrolled result) := by
  obtain ⟨now, files, signed, clock, openssl, certified, chain, der, expires⟩ := newcomer.signs 1 2
  have columns := (readable.computes other member).certificate
  have unrecorded : Connection.isUnrecorded (enrollmentOf other) = true := by
    simpa [ComputeRow.certificateColumns, asks.csr, free, Connection.isUnrecorded, enrollmentOf] using columns
  obtain ⟨after, stored⟩ := recordAgentCertificate_stored readable keyed member asks free
    ⟨newcomer.csr, signed.certificateChainPem, signed.leafDer, signed.expiresAt, now⟩
    (csr_fits newcomer.valid) chain der expires
  have recorded : runAll exec (fun count => newcomer.choices (count + 1))
      ((newcomer.connection bootstrap).signAndRecord (setup.context .akamai) (newcomer.request bootstrap)
        (enrollmentOf other)) (later.store later.db) =
      runAll exec (fun count => newcomer.choices (count + 4)) ((newcomer.connection bootstrap).accept
        signed.certificateChainPem other.connectionToken) ((later.store later.db).store after) := by
    simp only [Connection.signAndRecord, Setup.context, issues, ControlPlane.clock, Try.raising,
      AgentCertificateAuthority.sign, Prog.perform, bind, Try.bind, Prog.bind, runAll, exec, clock,
      Except.mapError, Try.ofExcept, Newcomer.request, newcomer.valid, openssl, certified]
    exact @runAll_statement _ _ (fun count => newcomer.choices (count + 3)) AgentServerError.repository
      (.recordAgentCertificate bootstrap.computeInstanceId bootstrap.enrollmentToken
        ⟨newcomer.csr, signed.certificateChainPem, signed.leafDer, signed.expiresAt, now⟩)
      (fun (recorded : Bool) =>
        if recorded then (newcomer.connection bootstrap).accept signed.certificateChainPem other.connectionToken
        else (newcomer.connection bootstrap).acceptRecorded (newcomer.request bootstrap))
      (later.store later.db) true after
      (newcomer.calm 3) stored rfl
  simp only [Newcomer.Answered, newcomer.asked keyed member asks (if_pos unrecorded), recorded]
  exact ⟨_, respond_log _ (newcomer.calm 4) _⟩

end Joining

namespace Sample

def csr (key : String) : String :=
  "-----BEGIN CERTIFICATE REQUEST-----" ++ key ++ "-----END CERTIFICATE REQUEST-----"

def renting : Run := rents "a" (.localRestic "/srv") 2 38

def enrolling : Run :=
  connects (.enroll (some
    { protocolVersion := 3, computeInstanceId := computeId, enrollmentToken := token 2
      certificateSigningRequestPem := csr "first" })) none 2 7

def lost : Run := renting ++ [.environment (.vmVanishes 1)]

def lostEnrolled : Run := renting ++ enrolling ++ [.environment (.vmVanishes 1)]

-- The worker rents a machine for the same compute once more.
def again : Run := works .worker (.reconcile ⟨2⟩) 2 17

-- The agent of the second machine has made a key of its own.
def newcomer (row : ComputeRow) (fresh : row.agentCsrPem ≠ some (csr "second"))
    (created : row.createdAt ≤ 1) : Newcomer akamaiManager.remote 86400000 row where
  since := 0
  number := 0
  csr := csr "second"
  files _ := remoteChoice 2
  choices _ := remoteChoice 2
  valid := by decide +kernel
  fresh
  keys := ⟨["key"], fun _ => by rfl⟩
  ca := ⟨"key", by decide +kernel, by decide +kernel⟩
  calm _ := rfl
  signs _ _ := ⟨1, _, _, rfl, rfl, rfl, by decide +kernel, by decide, created.trans (by decide)⟩

def shows (condition : ComputeRow → Bool) (world later : World) : Bool :=
  world.db.serverInstances.any fun found => world.db.computeInstances.any fun row =>
    decide (found.dataPreparedAt = none ∧ row.serverInstanceId = found.id ∧ row.provider = .akamai ∧
      row.terminatedAt = none ∧ row.createdAt ≤ 1 ∧ row.agentCsrPem ≠ some (csr "second") ∧
      (∃ recorded ∈ row.providerInstanceId, ∃ id ∈ Text.parseU64 recorded,
        world.provider.find id = none) ∧
      (∀ vm ∈ world.provider.instances, vm.label ≠ providerLabel row.id) ∧ Awaits row later) &&
    condition row

theorem recreates_of_shows {condition : ComputeRow → Bool} {world later : World}
    (shown : shows condition world later = true) :
    ∃ found row, Recreates found row world ∧ Awaits row later ∧ row.createdAt ≤ 1 ∧
      row.agentCsrPem ≠ some (csr "second") ∧ condition row = true := by
  simp only [shows, List.any_eq_true, Bool.and_eq_true, decide_eq_true_eq] at shown
  obtain ⟨found, stored, row, member, ⟨unprepared, owned, remote, running, created, fresh, gone, vacant,
    awaits⟩, holds⟩ := shown
  exact ⟨found, row, ⟨stored, unprepared, member, owned, remote, running, gone, vacant⟩, awaits, created,
    fresh, holds⟩

def free (row : ComputeRow) : Bool := row.enrollmentToken.isSome && row.agentCsrPem.isNone

def taken (row : ComputeRow) : Bool := row.enrollmentToken.isSome && row.agentCsrPem.isSome

theorem lost_shown :
    shows free (reached remoteSetup lost).state (reached remoteSetup (lost ++ again)).state = true ∧
      shows taken (reached remoteSetup lostEnrolled).state
        (reached remoteSetup (lostEnrolled ++ again)).state = true := by
  -- Each part of the runs is evaluated once.
  rw [reached_append _ lost, reached_append _ lostEnrolled, lost, lostEnrolled, List.append_assoc,
    reached_append _ renting, reached_append _ renting]
  decide +kernel

end Sample

end McServer.System
