import McServer.System.Servers
import McServer.Store.Writing

set_option autoImplicit false

namespace McServer.Domain

theorem Uuid.hexDigits_visible {width value : Nat} {char : Char}
    (member : char ∈ Uuid.hexDigits width value) : 48 ≤ char.toNat ∧ char.toNat ≤ 102 := by
  induction width generalizing value with
  | zero => cases member
  | succ width ih =>
    simp only [Uuid.hexDigits, List.mem_append, List.mem_singleton] at member
    rcases member with before | rfl
    · exact ih before
    · have table : ∀ digit : Fin 16, 48 ≤ (Nat.digitChar digit).toNat ∧
          (Nat.digitChar digit).toNat ≤ 102 := by decide
      exact table ⟨value % 16, Nat.mod_lt value (by decide)⟩

end McServer.Domain

namespace McServer.System

open Domain Store Agent ControlPlane Interleaving

theorem legible_of_printable {maximum : Nat} {value : String} (bounded : Text.charCount value ≤ maximum)
    (printable : ∀ char ∈ value.toList, 33 ≤ char.toNat ∧ char.toNat ≤ 126)
    (nonempty : value.toList ≠ []) : Legible maximum value := by
  obtain ⟨first, member⟩ := List.exists_mem_of_ne_nil value.toList nonempty
  obtain ⟨low, high⟩ := printable first member
  refine ⟨Text.isBlank_false member (Text.isWhitespace_false low high), bounded, ?_⟩
  rw [Bool.eq_false_iff]
  intro nul
  obtain ⟨low, -⟩ := printable (Char.ofNat 0) (by simpa [Text.containsNul] using nul)
  exact absurd low (by decide)

theorem IsConnectionToken.legible {token : String} (made : IsConnectionToken token) :
    Legible maxConnectionTokenChars token := by
  obtain ⟨first, second, rfl⟩ := made
  have chars : (first.simple ++ second.simple).toList =
      Uuid.hexDigits 32 first.toNat ++ Uuid.hexDigits 32 second.toNat := by
    simp [Uuid.simple]
  refine legible_of_printable ?_ ?_ ?_
  · simp [Text.charCount, chars, maxConnectionTokenChars]
  · intro char member
    rw [chars, List.mem_append] at member
    rcases member with left | right
    · obtain ⟨low, high⟩ := Uuid.hexDigits_visible left
      omega
    · obtain ⟨low, high⟩ := Uuid.hexDigits_visible right
      omega
  · intro empty
    have length := congrArg List.length (chars.symm.trans empty)
    simp at length

theorem toString_legible {number : Nat} (bounded : number ≤ maximumU64) :
    Legible maxProviderInstanceIdChars (toString number) := by
  have digits : (toString number).toList = Nat.toDigits 10 number := Nat.toList_repr
  refine legible_of_printable ?_ ?_ ?_
  · rw [Text.charCount, digits]
    have short := Nat.toDigits_length 10 number 20 (by decide)
      (lt_of_le_of_lt bounded (by norm_num [maximumU64]))
    simp only [maxProviderInstanceIdChars]
    omega
  · intro char member
    rw [digits] at member
    have digit := Nat.isDigit_of_mem_toDigits (by decide) (by decide) member
    simp only [Char.isDigit, Bool.and_eq_true, decide_eq_true_eq, ge_iff_le,
      UInt32.le_iff_toNat_le] at digit
    have low : 48 ≤ char.toNat := digit.1
    have high : char.toNat ≤ 57 := digit.2
    omega
  · rw [digits]
    exact Nat.toDigits_ne_nil

theorem publicIpv4_valid {vm : ProviderInstance} {address : String}
    (given : vm.publicIpv4 = some address) : ComputeInstance.isIpv4 address = true := by
  have chosen := List.find?_some given
  simp only [ProviderInstance.isPublicAddress, Bool.and_eq_true] at chosen
  exact chosen.1

def messageStarts : List String :=
  ["reconciliation persistence operation failed: ", "reconciliation domain transition failed: ",
    "reconciliation timestamp operation failed: ", "compute operation failed: ",
    "node-agent operation failed: ", "server reconciliation did not converge for ",
    "writable data for server instance "]

theorem message_starts (error : ReconcileError) :
    ∃ start ∈ messageStarts, ∃ rest, error.message = start ++ rest := by
  cases error with
  | repository source =>
    exact ⟨"reconciliation persistence operation failed: ", by simp [messageStarts], _, rfl⟩
  | domain source =>
    exact ⟨"reconciliation domain transition failed: ", by simp [messageStarts], _, rfl⟩
  | timestamp source =>
    exact ⟨"reconciliation timestamp operation failed: ", by simp [messageStarts], _, rfl⟩
  | compute source => exact ⟨"compute operation failed: ", by simp [messageStarts], _, rfl⟩
  | agent source => exact ⟨"node-agent operation failed: ", by simp [messageStarts], _, rfl⟩
  | didNotConverge server =>
    exact ⟨"server reconciliation did not converge for ", by simp [messageStarts], _, rfl⟩
  | writableDataLost id =>
    exact ⟨"writable data for server instance ", by simp [messageStarts], _, String.append_assoc⟩

theorem message_visible (error : ReconcileError) :
    Text.isBlank (Text.takeChars maxErrorChars error.message) = false := by
  obtain ⟨start, listed, rest, split⟩ := message_starts error
  have table : ∀ start ∈ messageStarts,
      (start.toList.head?.any fun char => !Text.isWhitespace char) = true := by decide
  have visible := table start listed
  cases chars : start.toList with
  | nil => simp [chars] at visible
  | cons first others =>
    have seen : Text.isWhitespace first = false := by simpa [chars] using visible
    refine Text.isBlank_false ?_ seen
    rw [Text.takeChars, split, String.toList_append, chars, maxErrorChars]
    simp

-- What else than the constraints on a row can keep a statement from being carried out: an id or a
-- snapshot that is taken, a counter that is used up, a process number that no process has. A message
-- or a certificate may be one the table does not take.
def Excused (db : Database) : DbOp → Prop
  | .insertInstance server id _ => (∃ row ∈ db.serverInstances, row.id = id) ∨
      ∃ row ∈ db.servers, row.id = server ∧ maximumI64 < row.nextFencingToken + 1
  | .commitSnapshot id _ snapshotId _ => ∃ row ∈ db.serverInstances, row.id = id ∧
      ∃ snapshot ∈ db.snapshots, snapshot.serverId = row.serverId ∧ snapshot.id = snapshotId
  | .recordProcessId _ processId _ => processId = 0
  | .recordError _ _ _ => True
  | .recordAgentCertificate _ _ _ => True
  | _ => False

-- How a statement ends: the rows stay readable, and their constraints do not stop it.
def Writes (excused : Prop) {A : Type} (outcome : Except RepositoryError A × Database) : Prop :=
  Readable outcome.2 ∧ (outcome.1 = .error .database → excused)

section Statements

variable {db : Database}

theorem binding_writes {A : Type} {excused : Prop} {value : Nat} {query : Nat → Query A}
    (readable : Readable db) (bound : Writes excused (query value db)) :
    Writes excused (binding value query db) := by
  unfold binding positiveU64ToI64
  split_ifs
  · exact ⟨readable, nofun⟩
  · exact ⟨readable, nofun⟩
  · exact bound

theorem Writes.weaken {A : Type} {excused : Prop} {outcome : Except RepositoryError A × Database}
    (writes : Writes False outcome) : Writes excused outcome :=
  ⟨writes.1, fun failed => (writes.2 failed).elim⟩

theorem read_writes {A : Type} {answer : Database → Except RepositoryError A} (readable : Readable db)
    (answered : ∃ value, answer db = .ok value) : Writes False (read answer db) := by
  obtain ⟨value, answered⟩ := answered
  refine ⟨readable, fun failed => ?_⟩
  rw [Store.read, answered] at failed
  cases failed

theorem mapM_find_answered {Row A : Type} {rows : List Row} {selects : Row → Bool}
    {decode : Row → Except RepositoryError A} {value : Row → A}
    (decoded : ∀ row ∈ rows, decode row = .ok (value row)) :
    ∃ found, (rows.find? selects).mapM decode = .ok found := by
  cases found : rows.find? selects with
  | none => exact ⟨none, rfl⟩
  | some row =>
    refine ⟨some (value row), ?_⟩
    simp [decoded row (List.mem_of_find?_eq_some found)]

theorem mapM_answered {Row A : Type} {rows : List Row} {decode : Row → Except RepositoryError A}
    {value : Row → A} (decoded : ∀ row ∈ rows, decode row = .ok (value row)) :
    rows.mapM decode = .ok (rows.map value) := by
  induction rows with
  | nil => rfl
  | cons row rest ih =>
    rw [List.mapM_cons, decoded row (by simp), ih fun other member => decoded other (by simp [member])]
    rfl

theorem createServer_writes (readable : Readable db) {server : Server}
    (drafted : ∃ id name spec now, Server.new id name spec now = .ok server) :
    Writes False ((DbOp.createServer server).query db) := by
  obtain ⟨id, name, spec, now, made⟩ := drafted
  obtain ⟨valid, rfl⟩ := Server.new_ok made
  have sound : ServerRow.Sound
      { id, name, generation := 1, desiredState := .stopped, spec, currentSnapshotId := none
        archivedAt := none, createdAt := now, updatedAt := now, nextFencingToken := 1 } :=
    { generation := Nat.one_pos, token := Nat.one_pos, spec := valid
      snapshot := nofun
      order := le_refl _
      archived := nofun }
  refine binding_writes readable ?_
  dsimp only
  split
  · rename_i stored inserted
    obtain ⟨rfl, -, -⟩ := insertRow_stored inserted
    refine ⟨⟨?_, readable.instances, readable.computes⟩, nofun⟩
    intro row member
    rcases List.mem_append.mp member with old | new
    · exact readable.servers row old
    · rw [List.mem_singleton.mp new]
      exact sound
  · exact ⟨readable, nofun⟩
  · rename_i refused
    unfold insertRow at refused
    rw [sound.check] at refused
    split_ifs at refused with invalid
    cases invalid

theorem insertCompute_writes (readable : Readable db) {id : ComputeInstanceId}
    {owner : ServerInstanceId} {provider : ComputeProvider} {connection : String}
    {enrollment : Option String} {now : UnixTimestampMillis} (made : IsConnectionToken connection)
    (enrolling : ∀ token, enrollment = some token → IsConnectionToken token)
    (here : provider = .localProcess → enrollment = none) :
    Writes False ((DbOp.insertCompute id owner provider connection enrollment now).query db) := by
  have sound : ComputeSound
      { id, serverInstanceId := owner, provider, providerInstanceId := none, publicIpv4 := none
        connectionToken := connection, enrollmentToken := enrollment, processId := none
        agentConnectedAt := none, shutdownRequestedAt := none, terminatedAt := none
        terminalResult := none, failureMessage := none, createdAt := now, updatedAt := now
        agentCsrPem := none, agentCertificateChainPem := none, agentCertificateDer := none
        agentCertificateExpiresAt := none } :=
    { connection := made.legible
      enrollment := fun token given => (enrolling token given).legible
      providerId := by rintro _ ⟨⟩
      address := by rintro _ ⟨⟩
      failure := by rintro _ ⟨⟩
      csr := rfl, chain := rfl, der := rfl, certificate := rfl, expires := rfl, process := rfl
      columns := by
        cases provider with
        | localProcess => simp [ComputeRow.providerColumns, here rfl]
        | akamai => rfl
      order := le_refl _, terminal := rfl
      connected := by rintro _ ⟨⟩
      shutdown := by rintro _ ⟨⟩
      ended := by rintro _ ⟨⟩
      last := by rintro _ ⟨⟩ }
  simp only [DbOp.query, ComputeInstanceRepository.insertForInstance]
  split
  · split
    · rename_i stored inserted
      obtain ⟨rfl, -, -⟩ := insertRow_stored inserted
      refine ⟨⟨readable.servers, readable.instances, ?_⟩, by rintro ⟨⟩⟩
      intro row member
      rcases List.mem_append.mp member with old | new
      · exact readable.computes row old
      · rw [List.mem_singleton.mp new]
        exact sound
    · exact ⟨readable, by rintro ⟨⟩⟩
    · rename_i refused
      unfold insertRow at refused
      rw [sound.check] at refused
      split_ifs at refused with invalid
      cases invalid
  · exact ⟨readable, by rintro ⟨⟩⟩

theorem recordError_writes (readable : Readable db) {id : ServerInstanceId} {error : ReconcileError}
    {now : UnixTimestampMillis} :
    Readable ((DbOp.recordError id error.message now).query db).2 := by
  refine touchedOne_keeps readable fun checked => ?_
  refine ⟨readable.servers, Table.forall_update readable.instances fun row member chosen sound => ?_,
    readable.computes⟩
  have clean := checked row member chosen
  simp only [Bool.and_eq_true, Option.isNone_iff_eq_none] at chosen
  refine sound.recordError chosen.2 ⟨message_visible error, ?_, ?_⟩ now
  · simp [Text.charCount_takeChars]
  · simp only [instanceCheck, textWithin, Bool.and_eq_true, Option.all_some, Bool.not_eq_true'] at clean
    exact clean.1.1.1.1.1.1.1.1.1.2.2

theorem recordAgentCertificate_writes (readable : Readable db) {id : ComputeInstanceId} {token : String}
    {certificate : AgentCertificateRecord} :
    Readable ((DbOp.recordAgentCertificate id token certificate).query db).2 := by
  refine touchedOne_keeps readable fun checked => ?_
  refine ⟨readable.servers, readable.instances,
    Table.forall_update readable.computes fun row member chosen sound => ?_⟩
  have check := checked row member chosen
  simp only [ComputeRow.check, Bool.and_eq_true, Option.all_some, decide_eq_true_eq] at check
  simp only [Bool.and_eq_true, decide_eq_true_eq, Option.isNone_iff_eq_none] at chosen
  obtain ⟨⟨⟨⟨⟨⟨⟨⟨⟨⟨⟨⟨⟨⟨-, csr⟩, chain⟩, der⟩, -⟩, -⟩, -⟩, -⟩, -⟩, -⟩, expires⟩, -⟩, -⟩, -⟩, -⟩ := check
  exact sound.recordAgentCertificate chosen.2 chosen.1.1.1.2 csr chain der expires

theorem authenticateAgent_writes (readable : Readable db) (id : ComputeInstanceId)
    (provider : ComputeProvider) (token : String) (der : Option (List UInt8))
    (now : UnixTimestampMillis) :
    Writes False ((DbOp.authenticateAgent id provider token der now).query db) := by
  have mapped : ∀ {outcome : Except RepositoryError Bool × Database},
      Readable outcome.2 ∧ outcome.1 ≠ .error .database →
      Writes False (outcome.1.map ComputeInstanceRepository.authentication, outcome.2) := by
    rintro ⟨result, after⟩ ⟨readable, done⟩
    refine ⟨readable, fun failed => ?_⟩
    cases result with
    | error error =>
      injection failed with same
      exact done (congrArg _ same)
    | ok touched => cases failed
  simp only [DbOp.query, ComputeInstanceRepository.authenticateAgent]
  cases provider with
  | localProcess =>
    refine mapped (readable.updateComputes fun row member chosen => ?_)
    simp only [Bool.and_eq_true, Option.isNone_iff_eq_none] at chosen
    exact (readable.computes row member).authenticate chosen.2 (.inl rfl) now
  | akamai =>
    cases der with
    | none => exact ⟨readable, by rintro ⟨⟩⟩
    | some der =>
      refine mapped (readable.updateComputes fun row member chosen => ?_)
      simp only [Bool.and_eq_true, Option.isNone_iff_eq_none] at chosen
      exact (readable.computes row member).authenticate chosen.2 (.inr rfl) now

end Statements

structure ReadableHistory (db : Database) (past : List Database) : Prop where
  now : Readable db
  states : ∀ state ∈ past, Readable state
  created : SameColumn (fun row => row.createdAt) db past

section Guarded

variable {setup : Setup} {policy : Policy setup} {world : World} {server : Server} {previous : Nat}

theorem ReadFrom.order {read : ServerRow} (drawn : ReadFrom world server previous read)
    (history : ReadableHistory world.db world.past) {row : ServerRow} (member : row ∈ world.db.servers)
    (named : row.id = server.id) : row.createdAt ≤ server.updatedAt := by
  obtain ⟨state, kept, stored⟩ := drawn.stored
  have same : row.createdAt = read.createdAt :=
    history.created state kept read stored row member (named.trans drawn.id)
  have order := ((history.states state kept).servers read stored).order
  rw [same]
  exact le_trans order drawn.updated

theorem updateDesiredState_writes (history : ReadableHistory world.db world.past)
    (allowed : (DbOp.updateDesiredState server previous).Allowed world.db)
    (drafted : Drafted world (.updateDesiredState server previous)) :
    Writes False ((DbOp.updateDesiredState server previous).query world.db) := by
  obtain ⟨read, drawn⟩ := readFrom_updateDesiredState drafted
  refine binding_writes history.now (binding_writes history.now ?_)
  refine (history.now.updateServers fun row member chosen => ?_).imp_right fun done => done
  simp only [Bool.and_eq_true, decide_eq_true_eq, Option.isNone_iff_eq_none] at chosen
  have sound := history.now.servers row member
  have order := drawn.order history member chosen.1.1
  simp only [DbOp.Allowed] at allowed
  exact { sound with
    generation := by
      dsimp only
      omega
    order
    archived := by simp [chosen.2] }

theorem updateSpec_writes (history : ReadableHistory world.db world.past)
    (allowed : (DbOp.updateSpec server previous).Allowed world.db)
    (drafted : Drafted world (.updateSpec server previous)) :
    Writes False ((DbOp.updateSpec server previous).query world.db) := by
  obtain ⟨read, drawn⟩ := readFrom_updateSpec drafted
  obtain ⟨_, _, source, _, _, spec, now, -, changed, written⟩ := drafted
  have valid : server.spec.validate = .ok () := by
    obtain ⟨-, -, -, new⟩ := (Server.updateSpec_ok changed).resolve_left (by simp)
    rw [written, new]
    exact (Server.updateSpec_checked changed).1
  refine binding_writes history.now (binding_writes history.now ?_)
  refine (history.now.updateServers fun row member chosen => ?_).imp_right fun done => done
  simp only [Bool.and_eq_true, decide_eq_true_eq, Option.isNone_iff_eq_none] at chosen
  have sound := history.now.servers row member
  have order := drawn.order history member chosen.1.1.1
  simp only [DbOp.Allowed] at allowed
  exact { sound with
    generation := by
      dsimp only
      omega
    spec := valid
    order
    archived := by simp [chosen.2] }

theorem archiveServer_writes (history : ReadableHistory world.db world.past)
    (allowed : (DbOp.archiveServer server previous).Allowed world.db)
    (drafted : Drafted world (.archiveServer server previous)) :
    Writes False ((DbOp.archiveServer server previous).query world.db) := by
  obtain ⟨read, drawn⟩ := readFrom_archiveServer drafted
  obtain ⟨_, _, source, _, _, now, changed, written⟩ := drafted
  have dated : server.archivedAt = some server.updatedAt := by
    obtain ⟨-, -, -, new⟩ := (Server.archive_ok changed).resolve_left (by simp)
    rw [written, new]
  simp only [DbOp.query, ServerRepository.archive, dated]
  refine binding_writes history.now (binding_writes history.now ?_)
  refine (history.now.updateServers fun row member chosen => ?_).imp_right fun done => done
  simp only [Bool.and_eq_true, decide_eq_true_eq] at chosen
  have sound := history.now.servers row member
  have order := drawn.order history member chosen.1.1.1.1
  simp only [DbOp.Allowed] at allowed
  refine { sound with
    generation := by
      dsimp only
      omega
    order
    archived := ?_ }
  rintro time ⟨⟩
  exact ⟨order, le_refl _, chosen.1.1.2⟩

end Guarded

section Reading

variable {setup : Setup} {policy : Policy setup} {world : World} {statement : DbOp}

theorem instance_writes {db : Database} {selects : ServerInstance → Bool}
    {set : ServerInstance → ServerInstance} (readable : Readable db)
    (written : ∀ row, InstanceSound row → selects row = true → InstanceSound (set row)) :
    Writes False (touchedOne (updateInstances selects set) db) :=
  readable.updateInstances fun row member chosen => written row (readable.instances row member) chosen

theorem compute_writes {db : Database} {selects : ComputeRow → Bool} {set : ComputeRow → ComputeRow}
    (readable : Readable db)
    (written : ∀ row, ComputeSound row → selects row = true → ComputeSound (set row)) :
    Writes False (touchedOne (updateComputes selects set) db) :=
  readable.updateComputes fun row member chosen => written row (readable.computes row member) chosen

theorem query_writes (history : ReadableHistory world.db world.past) (consistent : Consistent world.db)
    (allowed : statement.Allowed world.db) (drafted : Drafted world statement) :
    Writes (Excused world.db statement) (statement.query world.db) := by
  have readable := history.now
  have decoded := readable.decoded
  cases statement with
  | createServer server => exact createServer_writes readable drafted
  | updateDesiredState server previous => exact updateDesiredState_writes history allowed drafted
  | updateSpec server previous => exact updateSpec_writes history allowed drafted
  | archiveServer server previous => exact archiveServer_writes history allowed drafted
  | insertInstance server id now => exact readable.insertInstance consistent server id now
  | commitSnapshot id token snapshotId now =>
    exact ⟨readable.commit_readable id now, fun failed => readable.commit_accepted consistent failed⟩
  | requestStop id now =>
    refine instance_writes readable fun row sound chosen => ?_
    simp only [Bool.and_eq_true, Option.isNone_iff_eq_none] at chosen
    exact sound.requestStop chosen.1.2 now
  | markDataPrepared id now =>
    refine instance_writes readable fun row sound chosen => ?_
    simp only [Bool.and_eq_true, Option.isNone_iff_eq_none] at chosen
    exact sound.markDataPrepared chosen.2 now
  | observeProcess id running now =>
    refine instance_writes readable fun row sound chosen => ?_
    simp only [Bool.and_eq_true, Option.isNone_iff_eq_none] at chosen
    exact sound.observeProcess chosen.2 running now
  | completeInstance id result now =>
    exact instance_writes readable fun row sound _ => sound.complete result now
  | recordError id message now =>
    obtain ⟨error, rfl⟩ := drafted
    exact ⟨recordError_writes readable, fun _ => trivial⟩
  | insertCompute id owner provider connection enrollment now =>
    exact insertCompute_writes readable drafted.1 drafted.2.1 drafted.2.2.1
  | recordProcessId id processId now =>
    by_cases zero : processId = 0
    · refine ⟨?_, fun _ => zero⟩
      refine touchedOne_keeps readable fun checked => ⟨readable.servers, readable.instances, ?_⟩
      refine Table.forall_update readable.computes fun row member chosen _ => ?_
      have check := checked row member chosen
      simp [ComputeRow.check, zero] at check
    · refine Writes.weaken (compute_writes readable fun row sound chosen => ?_)
      simp only [Bool.and_eq_true, decide_eq_true_eq, Option.isNone_iff_eq_none] at chosen
      exact sound.recordProcessId chosen.1.2 chosen.2 (Nat.pos_of_ne_zero zero) now
  | recordProviderInstance id recorded ipv4 now =>
    obtain ⟨vm, within, rfl, rfl⟩ := drafted
    refine compute_writes readable fun row sound chosen => ?_
    simp only [Bool.and_eq_true, decide_eq_true_eq, Option.isNone_iff_eq_none] at chosen
    exact sound.recordProviderInstance chosen.1.2 chosen.2 (toString_legible within)
      (fun _ given => publicIpv4_valid given) now
  | recordAgentCertificate id token certificate =>
    exact ⟨recordAgentCertificate_writes readable, fun _ => trivial⟩
  | authenticateAgent id provider token der now =>
    exact authenticateAgent_writes readable id provider token der now
  | requestShutdown id now =>
    refine compute_writes readable fun row sound chosen => ?_
    simp only [Bool.and_eq_true, Option.isNone_iff_eq_none] at chosen
    exact sound.requestShutdown chosen.2 now
  | terminateCompute id result message now =>
    obtain rfl := drafted
    exact compute_writes readable fun row sound _ => sound.terminate result now
  | getServer | getServerByName => exact read_writes readable (mapM_find_answered decoded.1)
  | getInstance | getActiveInstance => exact read_writes readable (mapM_find_answered decoded.2.1)
  | getCompute | getActiveCompute => exact read_writes readable (mapM_find_answered decoded.2.2)
  | listActiveAkamai =>
    refine read_writes readable ⟨_, mapM_answered fun row member => decoded.2.2 row ?_⟩
    simp only [ComputeInstanceRepository.orderById, List.mem_insertionSort, List.mem_filter] at member
    exact member.1
  | hasActiveInstance | listActiveLocalOwnership | getAgentEnrollment =>
    exact read_writes readable ⟨_, rfl⟩

theorem reached_readable (setup : Setup) (run : Run) :
    ReadableHistory (reached setup run).state.db (reached setup run).state.past := by
  refine reached_database setup ReadableHistory ?_ ?_ ?_ run
  · intro statement world inv issuable history
    have written := (query_writes history inv.history.current issuable.1 issuable.2.2).1
    refine ⟨written, List.forall_mem_cons.mpr ⟨written, history.states⟩, ?_⟩
    exact history.created.after_statement inv issuable fun old _ new change => change.created
  · intro world inv history
    refine ⟨history.now, List.forall_mem_cons.mpr ⟨history.now, history.states⟩, ?_⟩
    intro state kept old member row stored sameId
    rcases List.mem_cons.mp kept with rfl | earlier
    · rw [inv.history.current.keyed.serverIds.eq_of_key stored member sameId]
    · exact history.created state earlier old member row stored sameId
  · have empty : Readable Database.empty := by constructor <;> simp [Database.empty]
    exact ⟨empty, by simpa using empty, by simp [SameColumn, Database.empty]⟩

end Reading

theorem every_row_reads_back (setup : Setup) (run : Run) :
    (∀ row ∈ (reached setup run).state.db.servers, row.toServer.rehydrate = .ok row.toServer) ∧
    (∀ row ∈ (reached setup run).state.db.serverInstances, row.rehydrate = .ok row) ∧
    (∀ row ∈ (reached setup run).state.db.computeInstances,
      row.toComputeInstance.rehydrate = .ok row.toComputeInstance) ∧
    ∀ thread statement next, (reached setup run).threads thread = .call (.db statement) next →
      (statement.query (reached setup run).state.db).1 = .error .database →
      Excused (reached setup run).state.db statement := by
  have history := reached_readable setup run
  have respected := reached_respected (Policy.unrestricted setup) (admitted_unrestricted run)
  refine ⟨fun row member => (history.now.servers row member).rehydrate,
    fun row member => (history.now.instances row member).rehydrate,
    fun row member => (history.now.computes row member).rehydrate, ?_⟩
  intro thread statement next waiting
  have issuable := issuable_of_guard ((sound setup _).respected_guard respected waiting)
  exact (query_writes history respected.1.history.current issuable.1 issuable.2.2).2

section Ageing

variable {db : Database}

theorem le_instanceTime {server : ServerRow} {row : ServerInstance} (member : row ∈ db.serverInstances)
    (owner : row.serverId = server.id) (now : UnixTimestampMillis) :
    row.updatedAt ≤ ServerInstanceRepository.instanceTime db server now := by
  have bounded : ∀ (rows : List ServerInstance) (start : UnixTimestampMillis),
      start ≤ rows.foldl (fun latest row => max latest row.updatedAt) start ∧
      ∀ row ∈ rows, row.updatedAt ≤ rows.foldl (fun latest row => max latest row.updatedAt) start := by
    intro rows
    induction rows with
    | nil => simp
    | cons first rest ih =>
      intro start
      obtain ⟨kept, others⟩ := ih (max start first.updatedAt)
      simp only [List.foldl_cons, List.forall_mem_cons]
      exact ⟨le_trans (le_max_left _ _) kept, le_trans (le_max_right _ _) kept, others⟩
  have listed : row ∈ db.serverInstances.filter fun row => row.serverId = server.id := by
    simp [member, owner]
  exact le_trans ((bounded _ 0).2 row listed) (le_max_right _ _)

def Successive (db : Database) : Prop :=
  ∀ first ∈ db.serverInstances, ∀ second ∈ db.serverInstances, first.serverId = second.serverId →
    first.fencingToken < second.fencingToken → first.updatedAt ≤ second.createdAt

theorem older_terminated (consistent : Consistent db) {first second : ServerInstance}
    (member : first ∈ db.serverInstances) (present : second ∈ db.serverInstances)
    (same : first.serverId = second.serverId) (older : first.fencingToken < second.fencingToken) :
    first.terminatedAt.isSome := by
  by_contra active
  have latest := consistent.lineage.latest first member (by simpa using active) second present same.symm
  omega

theorem Successive.after_statement {setup : Setup} {policy : Policy setup} {world : World}
    {statement : DbOp} (held : Successive world.db) (inv : Inv setup policy world)
    (issuable : Issuable setup policy world statement) : Successive (statement.query world.db).2 := by
  have aged := query_instances statement world.db
  have consistent := (query_effect issuable.1).consistent issuable.1 inv.history.current
  intro first member second present same older
  have ended := older_terminated consistent member present same older
  rcases aged.origin first member with ⟨first', member', ageing⟩ | ⟨server, -, id, now, -, rfl⟩
  · rcases aged.origin second present with ⟨second', present', ageing'⟩ | ⟨server, -, id, now, idle, rfl⟩
    · have same' : first'.serverId = second'.serverId :=
        ageing.server.symm.trans (same.trans ageing'.server)
      have older' : first'.fencingToken < second'.fencingToken := by
        rw [← ageing.token, ← ageing'.token]
        exact older
      have closed := older_terminated inv.history.current member' present' same' older'
      rw [ageing.frozen closed, ageing'.created]
      exact held first' member' second' present' same' older'
    · have owner : first'.serverId = server.id := ageing.server.symm.trans same
      have closed := hasActiveInstance_false idle first' member' owner
      rw [ageing.frozen closed]
      exact le_instanceTime member' owner now
  · cases ended

theorem compute_frozen {setup : Setup} {policy : Policy setup} {world : World} {statement : DbOp}
    (issuable : Issuable setup policy world statement) {row : ComputeRow}
    (member : row ∈ world.db.computeInstances) (ended : row.terminatedAt.isSome) :
    row ∈ (statement.query world.db).2.computeInstances := by
  have effect := query_effect issuable.1
  generalize (statement.query world.db).2 = after at effect ⊢
  cases effect with
  | computeInserted => exact List.mem_append_left _ member
  | @computesUpdated selects set writes =>
    refine Table.mem_update.mpr ⟨row, member, .inr ⟨?_, rfl⟩⟩
    rw [Bool.eq_false_iff]
    intro chosen
    simp [(writes row member chosen).running] at ended
  | _ => exact member

end Ageing

structure FrozenIn (db : Database) (row : ServerInstance) : Prop where
  stored : row ∈ db.serverInstances
  single : ∀ other ∈ db.serverInstances, other.id = row.id → other = row

structure ComputeFrozenIn (db : Database) (row : ComputeRow) : Prop where
  stored : row ∈ db.computeInstances
  single : ∀ other ∈ db.computeInstances, other.id = row.id → other = row

theorem history_is_frozen (setup : Setup) (run : Run) :
    (∀ row ∈ (reached setup run).state.db.serverInstances, row.terminatedAt.isSome →
      ∀ later : Run, FrozenIn (reached setup (run ++ later)).state.db row) ∧
    (∀ row ∈ (reached setup run).state.db.computeInstances, row.terminatedAt.isSome →
      ∀ later : Run, ComputeFrozenIn (reached setup (run ++ later)).state.db row) ∧
    ∀ first ∈ (reached setup run).state.db.serverInstances,
      ∀ second ∈ (reached setup run).state.db.serverInstances, first.serverId = second.serverId →
      first.fencingToken < second.fencingToken → ∃ ended, first.terminatedAt = some ended ∧
        ended ≤ first.updatedAt ∧ first.updatedAt ≤ second.createdAt := by
  have respected := reached_respected (Policy.unrestricted setup) (admitted_unrestricted run)
  refine ⟨fun row member ended later => ?_, fun row member ended later => ?_, ?_⟩
  · have stored : row ∈ (reached setup (run ++ later)).state.db.serverInstances := by
      rw [reached, Machine.run_append]
      refine run_database (fun db _ => row ∈ db.serverInstances) (fun _ _ => True) ?_
        (fun _ _ held => held) (admitted_unrestricted later) (along_anything later _) respected member
      intro statement world _ _ _ held
      obtain ⟨new, kept, aged⟩ := (query_instances statement world.db).image row held
      rwa [aged.frozen ended] at kept
    exact ⟨stored, fun other present same =>
      (reached_inv setup (run ++ later)).history.current.keyed.instanceIds.eq_of_key present stored same⟩
  · have stored : row ∈ (reached setup (run ++ later)).state.db.computeInstances := by
      rw [reached, Machine.run_append]
      refine run_database (fun db _ => row ∈ db.computeInstances) (fun _ _ => True) ?_
        (fun _ _ held => held) (admitted_unrestricted later) (along_anything later _) respected member
      exact fun statement world _ issuable _ held => compute_frozen issuable held ended
    exact ⟨stored, fun other present same =>
      (reached_inv setup (run ++ later)).history.current.keyed.computeIds.eq_of_key present stored same⟩
  · have successive : Successive (reached setup run).state.db :=
      reached_database setup (fun db _ => Successive db)
        (fun _ _ inv issuable held => held.after_statement inv issuable) (fun _ _ held => held)
        (by simp [Successive, Database.empty]) run
    intro first member second present same older
    have closed := older_terminated respected.1.history.current member present same older
    obtain ⟨ended, terminated⟩ := Option.isSome_iff_exists.mp closed
    have bounded := ((reached_readable setup run).now.instances first member).ended ended terminated
    exact ⟨ended, terminated, bounded.2, successive first member second present same older⟩

namespace Wire

def maxConnectionTokenChars : Nat := 256

def validateConnectionToken (token : String) : Bool :=
  !(Text.isBlank token || Text.containsNul token || maxConnectionTokenChars < Text.charCount token)

theorem validateConnectionToken_legible {token : String}
    (legible : Store.Legible maxConnectionTokenChars token) : validateConnectionToken token = true := by
  simp [validateConnectionToken, legible.visible, legible.clean, legible.bounded]

theorem issued_tokens_accepted (setup : Setup) (run : Run) :
    (∀ row ∈ (reached setup run).state.db.computeInstances, validateConnectionToken row.connectionToken = true ∧
      ∀ token, row.enrollmentToken = some token → validateConnectionToken token = true) ∧
    ∀ request der result window,
      .answered request der (.enrolled result) window ∈ (reached setup run).state.log →
      validateConnectionToken result.connectionToken = true := by
  have computes := (reached_readable setup run).now.computes
  refine ⟨fun row member => ⟨validateConnectionToken_legible (computes row member).connection,
    fun token given => validateConnectionToken_legible ((computes row member).enrollment token given)⟩,
    fun request der result window logged => ?_⟩
  obtain ⟨earlier, params, -, ⟨row, member, -, -, -, same⟩, -⟩ := (reached_inv setup run).log.of_mem logged
  rw [← same]
  exact validateConnectionToken_legible (computes row member).connection

end Wire

end McServer.System
