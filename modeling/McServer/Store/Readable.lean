import McServer.Store.Lineage
import McServer.Library.Accepts

set_option autoImplicit false

namespace McServer.Store

open Domain Outcome

structure Legible (maximum : Nat) (value : String) : Prop where
  visible : Text.isBlank value = false
  bounded : Text.charCount value ≤ maximum
  clean : Text.containsNul value = false

theorem Legible.textWithin {maximum : Nat} {value : String} (legible : Legible maximum value) :
    textWithin maximum value = true := by
  obtain ⟨char, member, seen⟩ := Text.exists_of_isBlank_false legible.visible
  have other : char ≠ ' ' := by
    rintro rfl
    exact absurd seen (by decide)
  simp only [Store.textWithin, Bool.and_eq_true, List.any_eq_true, bne_iff_ne, decide_eq_true_eq,
    legible.clean, Bool.not_false, and_true]
  exact ⟨⟨char, member, other⟩, legible.bounded⟩

theorem Legible.all {maximum : Nat} {value : Option String}
    (legible : ∀ text, value = some text → Legible maximum text) :
    value.all (Store.textWithin maximum) = true := by
  cases value with
  | none => rfl
  | some text => exact (legible text rfl).textWithin

theorem Legible.requireText {maximum : Nat} {value : String} (legible : Legible maximum value)
    (field : String) : requireText field value maximum = .ok () := by
  have short : ¬ maximum < Text.charCount value := Nat.not_lt.mpr legible.bounded
  simp [Domain.requireText, requireNonBlank, requireMaximumLength, rejectNul, legible.visible,
    legible.clean, short, bind, Except.bind]

theorem Legible.validateRequired {maximum : Nat} {value : String} (legible : Legible maximum value)
    (field : String) : ComputeInstance.validateRequired field value maximum = .ok () := by
  have short : ¬ maximum < Text.charCount value := Nat.not_lt.mpr legible.bounded
  simp [ComputeInstance.validateRequired, legible.visible, legible.clean, short, pure, Except.pure]

theorem Legible.validateOptional {maximum : Nat} {value : Option String}
    (legible : ∀ text, value = some text → Legible maximum text) (field : String) :
    ComputeInstance.validateOptional field value maximum = .ok () := by
  cases value with
  | none => rfl
  | some text => exact (legible text rfl).validateRequired field

theorem Legible.requireSnapshotId {value : Option String}
    (legible : ∀ text, value = some text → Legible maxSnapshotIdChars text) (field : String) :
    ServerInstance.requireSnapshotId field value = .ok () := by
  cases value with
  | none => rfl
  | some text =>
    have seen := (legible text rfl).visible
    have clean := (legible text rfl).clean
    have short : ¬ maxSnapshotIdChars < Text.charCount text := Nat.not_lt.mpr (legible text rfl).bounded
    simp [ServerInstance.requireSnapshotId, seen, clean, short, pure, Except.pure]

theorem legible_of_isPublishable {snapshotId : String}
    (publishable : SnapshotRepository.isPublishable snapshotId = true) :
    Legible maxSnapshotIdChars snapshotId := by
  simp only [SnapshotRepository.isPublishable, Bool.and_eq_true, Bool.not_eq_true',
    decide_eq_true_eq] at publishable
  exact ⟨publishable.1.1, publishable.2, publishable.1.2⟩

theorem isNameChar_bounds {char : Char} (valid : ServerName.isNameChar char = true) :
    48 ≤ char.toNat ∧ char.toNat ≤ 122 := by
  simp only [ServerName.isNameChar, Text.isAsciiLowercase, Text.isAsciiDigit, Bool.or_eq_true,
    Bool.and_eq_true, decide_eq_true_eq, Char.le_def, UInt32.le_iff_toNat_le, Char.toNat_val] at valid
  simp at valid
  omega

theorem ServerName.legible (name : ServerName) : Legible 128 name.asStr := by
  have valid := name.valid
  simp only [ServerName.isValid, Bool.and_eq_true, decide_eq_true_eq, Option.any_eq_true] at valid
  obtain ⟨⟨⟨⟨-, short⟩, first, head, named⟩, -⟩, chars⟩ := valid
  obtain ⟨low, high⟩ := isNameChar_bounds named
  refine ⟨Text.isBlank_false (List.mem_of_mem_head? head)
    (Text.isWhitespace_false (by omega) (by omega)), ?_, ?_⟩
  · have bytes := Text.charCount_le_utf8ByteSize name.asStr
    simp only [maxServerNameChars] at short
    omega
  · rw [Bool.eq_false_iff]
    intro nul
    have listed := List.all_eq_true.mp chars (Char.ofNat 0) (by simpa [Text.containsNul] using nul)
    exact absurd listed (by decide)

structure ServerRow.Sound (row : ServerRow) : Prop where
  generation : 0 < row.generation
  token : 0 < row.nextFencingToken
  spec : row.spec.validate = .ok ()
  snapshot : ∀ id, row.currentSnapshotId = some id → Legible maxSnapshotIdChars id
  order : row.createdAt ≤ row.updatedAt
  archived : ∀ time, row.archivedAt = some time →
    row.createdAt ≤ time ∧ time ≤ row.updatedAt ∧ row.desiredState = .stopped

theorem ServerRow.Sound.check {row : ServerRow} (sound : row.Sound) : row.check = true := by
  have snapshot := Legible.all sound.snapshot
  have archived := sound.archived
  simp only [ServerRow.check, Bool.and_eq_true, decide_eq_true_eq]
  refine ⟨⟨⟨⟨⟨⟨(ServerName.legible row.name).textWithin, sound.generation⟩, snapshot⟩, sound.token⟩,
    sound.order⟩, ?_⟩, ?_⟩
  · cases time : row.archivedAt with
    | none => rfl
    | some value => simp [between, archived value time]
  · cases time : row.archivedAt with
    | none => rfl
    | some value => simp [archived value time]

theorem ServerRow.Sound.rehydrate {row : ServerRow} (sound : row.Sound) :
    row.toServer.rehydrate = .ok row.toServer :=
  Server.Valid.rehydrate ⟨sound.generation, sound.order, sound.archived,
    fun id current => (sound.snapshot id current).requireText _, sound.spec⟩

def Between (low high : UnixTimestampMillis) (value : Option UnixTimestampMillis) : Prop :=
  ∀ time, value = some time → low ≤ time ∧ time ≤ high

theorem Between.between {low high : UnixTimestampMillis} {value : Option UnixTimestampMillis}
    (held : Between low high value) : between low high value = true := by
  cases value with
  | none => rfl
  | some time => simp [Store.between, held time rfl]

theorem Between.outside {low high : UnixTimestampMillis} {value : Option UnixTimestampMillis}
    (held : Between low high value) : (value.any fun time => time < low || high < time) = false := by
  cases value with
  | none => rfl
  | some time =>
    obtain ⟨above, below⟩ := held time rfl
    simp [Nat.not_lt.mpr above, Nat.not_lt.mpr below]

structure InstanceSound (row : ServerInstance) : Prop where
  generation : 0 < row.serverGeneration
  token : 0 < row.fencingToken
  spec : row.resolvedSpec.validate = .ok ()
  source : ∀ id, row.sourceSnapshotId = some id → Legible maxSnapshotIdChars id
  result : ∀ id, row.resultSnapshotId = some id → Legible maxSnapshotIdChars id
  error : ∀ message, row.lastError = some message → Legible maxErrorChars message
  order : row.createdAt ≤ row.updatedAt
  terminal : row.terminatedAt.isSome = row.terminalResult.isSome
  observation : row.processRunning = true → row.processObservedAt.isSome
  halted : row.terminatedAt.isSome → row.processRunning = false
  prepared : Between row.createdAt row.updatedAt row.dataPreparedAt
  observed : Between row.createdAt row.updatedAt row.processObservedAt
  stopped : Between row.createdAt row.updatedAt row.stopRequestedAt
  ended : Between row.createdAt row.updatedAt row.terminatedAt
  last : ∀ time, row.terminatedAt = some time →
    row.dataPreparedAt.getD 0 ≤ time ∧ row.processObservedAt.getD 0 ≤ time ∧ row.stopRequestedAt.getD 0 ≤ time

theorem InstanceSound.check {row : ServerInstance} (sound : InstanceSound row) : instanceCheck row = true := by
  simp only [instanceCheck, Bool.and_eq_true, decide_eq_true_eq]
  refine ⟨⟨⟨⟨⟨⟨⟨⟨⟨⟨⟨⟨⟨sound.generation, sound.token⟩, Legible.all sound.source⟩, Legible.all sound.result⟩,
    Legible.all sound.error⟩, sound.order⟩, ?_⟩, ?_⟩, ?_⟩, sound.prepared.between⟩,
    sound.observed.between⟩, sound.stopped.between⟩, sound.ended.between⟩, ?_⟩
  · simp [sound.terminal]
  · cases running : row.processRunning with
    | false => rfl
    | true => simp [sound.observation running]
  · cases ended : row.terminatedAt with
    | none => rfl
    | some time => simp [sound.halted (by simp [ended])]
  · cases ended : row.terminatedAt with
    | none => rfl
    | some time =>
      obtain ⟨first, second, third⟩ := sound.last time ended
      simp [first, second, third]

theorem getD_le_iff {value : Option UnixTimestampMillis} {bound : UnixTimestampMillis} :
    value.getD 0 ≤ bound ↔ (value.any fun prior => bound < prior) = false := by
  cases value <;> simp

theorem InstanceSound.rehydrate {row : ServerInstance} (sound : InstanceSound row) :
    row.rehydrate = .ok row := by
  have generation : row.serverGeneration ≠ 0 := Nat.ne_of_gt sound.generation
  have token : row.fencingToken ≠ 0 := Nat.ne_of_gt sound.token
  have observation : (row.processRunning && row.processObservedAt.isNone) = false := by
    cases running : row.processRunning with
    | false => rfl
    | true =>
      obtain ⟨time, observed⟩ := Option.isSome_iff_exists.mp (sound.observation running)
      simp [observed]
  have error : (row.lastError.any Text.isBlank) = false ∧ (row.lastError.any Text.containsNul) = false ∧
      (row.lastError.any fun message => maxErrorChars < Text.charCount message) = false := by
    cases message : row.lastError with
    | none => exact ⟨rfl, rfl, rfl⟩
    | some text =>
      obtain ⟨visible, bounded, clean⟩ := sound.error text message
      simp [visible, clean, bounded]
  have order : ¬ row.updatedAt < row.createdAt := Nat.not_lt.mpr sound.order
  have last : (row.terminatedAt.any fun terminated =>
      [row.dataPreparedAt, row.processObservedAt, row.stopRequestedAt].any fun time =>
        time.any fun prior => terminated < prior) = false := by
    cases ended : row.terminatedAt with
    | none => rfl
    | some time =>
      obtain ⟨first, second, third⟩ := sound.last time ended
      simp only [Option.any_some, List.any_cons, getD_le_iff.mp first, getD_le_iff.mp second,
        getD_le_iff.mp third, List.any_nil, Bool.or_self]
  have dated : ([row.dataPreparedAt, row.processObservedAt, row.stopRequestedAt, row.terminatedAt].any
      fun time => time.any fun value => value < row.createdAt || row.updatedAt < value) = false := by
    simp only [List.any_cons, List.any_nil, sound.prepared.outside, sound.observed.outside,
      sound.stopped.outside, sound.ended.outside, Bool.or_self]
  have checked : row.check = .ok () := by
    simp only [ServerInstance.check, generation, token, sound.spec, sound.terminal, observation, error,
      dated, order, last, Legible.requireSnapshotId sound.source,
      Legible.requireSnapshotId sound.result, ne_eq, not_true]
    rfl
  simp [ServerInstance.rehydrate, checked, Except.map]

theorem legible_of_checks {maximum : Nat} {value : Option String} (within : value.all (textWithin maximum) = true)
    (visible : ¬value.any Text.isBlank = true) : ∀ text, value = some text → Legible maximum text := by
  rintro text rfl
  simp only [textWithin, Option.all_some, Bool.and_eq_true, decide_eq_true_eq, Bool.not_eq_true'] at within
  exact ⟨by simpa using visible, within.1.2, within.2⟩

theorem between_of_check {low high : UnixTimestampMillis} {value : Option UnixTimestampMillis}
    (within : Store.between low high value = true) : Between low high value := by
  rintro time rfl
  simpa [Store.between] using within

theorem InstanceSound.of_accepted {row : ServerInstance} (checked : instanceCheck row = true)
    (accepted : row.rehydrate = .ok row) : InstanceSound row := by
  have read : Accepts row.check fun _ => True := by
    cases outcome : row.check with
    | error error => simp [ServerInstance.rehydrate, outcome, Except.map] at accepted
    | ok _ => simp
  simp only [ServerInstance.check, ServerInstance.requireSnapshotId, accepts_throwIf] at read
  obtain ⟨generation, token, rest⟩ := read
  cases spec : row.resolvedSpec.validate with
  | error error => simp [spec] at rest
  | ok _ =>
    simp only [spec, accepts_throwIf, accepts_bind] at rest
    obtain ⟨-, -, visible, -, -, -, -, -, source, -, rest⟩ := rest
    simp only [instanceCheck, Bool.and_eq_true, decide_eq_true_eq, beq_iff_eq] at checked
    obtain ⟨⟨⟨⟨⟨⟨⟨⟨⟨⟨⟨⟨⟨-, -⟩, sourced⟩, resulted⟩, erred⟩, order⟩, terminal⟩, observation⟩, halted⟩, prepared⟩,
      observed⟩, stopped⟩, ended⟩, last⟩ := checked
    constructor
    · omega
    · omega
    · exact spec
    · exact legible_of_checks sourced source
    · exact legible_of_checks resulted rest.unit.1
    · exact legible_of_checks erred visible
    · exact order
    · exact terminal
    · intro running
      simpa [running] using observation
    · intro ended
      cases time : row.terminatedAt with
      | none => simp [time] at ended
      | some time => simp_all
    · exact between_of_check prepared
    · exact between_of_check observed
    · exact between_of_check stopped
    · exact between_of_check ended
    · intro time given
      simp only [given, Option.all_some, decide_eq_true_eq, max_le_iff] at last
      exact ⟨last.1.1, last.1.2, last.2⟩

theorem isIpv4_legible {address : String} (valid : ComputeInstance.isIpv4 address = true) :
    Legible maxPublicIpv4Chars address := by
  simp only [ComputeInstance.isIpv4, Bool.and_eq_true, beq_iff_eq, List.all_eq_true] at valid
  obtain ⟨four, octets⟩ := valid
  have joined : ['.'].intercalate (address.toList.splitOn '.') = address.toList := List.intercalate_splitOn '.'
  generalize address.toList.splitOn '.' = pieces at four octets joined
  match pieces, four with
  | [a, b, c, d], _ =>
    have digits : ∀ piece ∈ [a, b, c, d], piece.length ≤ 3 ∧ ∀ char ∈ piece, Text.isAsciiDigit char = true := by
      intro piece member
      have octet := octets piece member
      simp only [ComputeInstance.isIpv4Octet, Bool.and_eq_true, decide_eq_true_eq, List.all_eq_true] at octet
      exact ⟨octet.1.1.1.2, octet.1.1.2⟩
    simp only [List.forall_mem_cons, List.not_mem_nil, false_implies, implies_true, and_true] at digits
    obtain ⟨⟨shortA, da⟩, ⟨shortB, db⟩, ⟨shortC, dc⟩, ⟨shortD, dd⟩⟩ := digits
    simp only [List.intercalate, List.intersperse, List.flatten_cons, List.flatten_nil] at joined
    have chars : ∀ char ∈ address.toList, Text.isAsciiDigit char = true ∨ char = '.' := by
      intro char member
      rw [← joined] at member
      simp only [List.mem_append, List.mem_cons, List.not_mem_nil, or_false] at member
      rcases member with first | dot | second | dot | third | dot | fourth
      · exact .inl (da char first)
      · exact .inr dot
      · exact .inl (db char second)
      · exact .inr dot
      · exact .inl (dc char third)
      · exact .inr dot
      · exact .inl (dd char fourth)
    have dotted : '.' ∈ address.toList := by
      rw [← joined]
      simp
    refine ⟨Text.isBlank_false dotted (by decide), ?_, ?_⟩
    · rw [Text.charCount, ← joined]
      simp [maxPublicIpv4Chars]
      omega
    · rw [Bool.eq_false_iff]
      intro nul
      rcases chars (Char.ofNat 0) (by simpa [Text.containsNul] using nul) with digit | dot
      · exact absurd digit (by decide)
      · exact absurd dot (by decide)

structure ComputeSound (row : ComputeRow) : Prop where
  connection : Legible maxConnectionTokenChars row.connectionToken
  enrollment : ∀ token, row.enrollmentToken = some token → Legible maxConnectionTokenChars token
  providerId : ∀ id, row.providerInstanceId = some id → Legible maxProviderInstanceIdChars id
  address : ∀ address, row.publicIpv4 = some address → ComputeInstance.isIpv4 address = true
  failure : ∀ message, row.failureMessage = some message → Legible maxFailureMessageChars message
  csr : row.agentCsrPem.all (bytesWithin 32768) = true
  chain : row.agentCertificateChainPem.all (bytesWithin 65536) = true
  der : (row.agentCertificateDer.all fun der => 1 ≤ der.length && der.length ≤ 65536) = true
  certificate : row.certificateColumns = true
  expires : row.agentCertificateExpiresAt.all (row.createdAt ≤ ·) = true
  process : row.processId.all (0 < ·) = true
  columns : row.providerColumns = true
  order : row.createdAt ≤ row.updatedAt
  terminal : row.terminatedAt.isSome = row.terminalResult.isSome
  connected : Between row.createdAt row.updatedAt row.agentConnectedAt
  shutdown : Between row.createdAt row.updatedAt row.shutdownRequestedAt
  ended : Between row.createdAt row.updatedAt row.terminatedAt
  last : ∀ time, row.terminatedAt = some time →
    row.agentConnectedAt.getD 0 ≤ time ∧ row.shutdownRequestedAt.getD 0 ≤ time

theorem ComputeSound.check {row : ComputeRow} (sound : ComputeSound row) : row.check = true := by
  simp only [ComputeRow.check, Bool.and_eq_true, decide_eq_true_eq]
  refine ⟨⟨⟨⟨⟨⟨⟨⟨⟨⟨⟨⟨⟨⟨⟨⟨⟨Legible.all sound.providerId, ?_⟩, sound.connection.textWithin⟩,
    Legible.all sound.enrollment⟩, sound.csr⟩, sound.chain⟩, ?_⟩, sound.process⟩,
    Legible.all sound.failure⟩, sound.order⟩, ?_⟩, sound.columns⟩, sound.certificate⟩, sound.expires⟩,
    sound.connected.between⟩, sound.shutdown.between⟩, sound.ended.between⟩, ?_⟩
  · exact Legible.all fun address given => isIpv4_legible (sound.address address given)
  · simpa using sound.der
  · simp [sound.terminal]
  · cases ended : row.terminatedAt with
    | none => rfl
    | some time =>
      obtain ⟨first, second⟩ := sound.last time ended
      simp [first, second]

theorem ComputeSound.providerFields {row : ComputeRow} (sound : ComputeSound row) :
    row.toComputeInstance.validateProviderFields = .ok () := by
  have columns := sound.columns
  unfold ComputeInstance.validateProviderFields
  cases provider : row.provider with
  | localProcess =>
    simp only [ComputeRow.providerColumns, provider, Bool.and_eq_true, Option.isNone_iff_eq_none] at columns
    obtain ⟨⟨⟨⟨⟨⟨none, none'⟩, none''⟩, -⟩, -⟩, -⟩, -⟩ := columns
    simp [none, none', none'']
  | akamai =>
    simp only [ComputeRow.providerColumns, provider, Option.isNone_iff_eq_none] at columns
    cases given : row.publicIpv4 with
    | none => simp [columns]
    | some address => simp [columns, sound.address address given]

theorem ComputeSound.rehydrate {row : ComputeRow} (sound : ComputeSound row) :
    row.toComputeInstance.rehydrate = .ok row.toComputeInstance := by
  have order : ¬ row.updatedAt < row.createdAt := Nat.not_lt.mpr sound.order
  have dated : ([row.agentConnectedAt, row.shutdownRequestedAt, row.terminatedAt].any fun time =>
      time.any fun value => value < row.createdAt || row.updatedAt < value) = false := by
    simp only [List.any_cons, List.any_nil, sound.connected.outside, sound.shutdown.outside,
      sound.ended.outside, Bool.or_self]
  have last : (row.terminatedAt.any fun terminated =>
      [row.agentConnectedAt, row.shutdownRequestedAt].any fun time =>
        time.any fun prior => terminated < prior) = false := by
    cases ended : row.terminatedAt with
    | none => rfl
    | some time =>
      obtain ⟨first, second⟩ := sound.last time ended
      simp only [Option.any_some, List.any_cons, getD_le_iff.mp first, getD_le_iff.mp second,
        List.any_nil, Bool.or_self]
  have checked : row.toComputeInstance.check = .ok () := by
    simp only [ComputeInstance.check, sound.connection.validateRequired,
      Legible.validateOptional sound.enrollment, Legible.validateOptional sound.providerId,
      Legible.validateOptional fun address given => isIpv4_legible (sound.address address given),
      sound.providerFields, sound.terminal, dated, order, last,
      Legible.validateOptional sound.failure, ne_eq, not_true]
    rfl
  simp [ComputeInstance.rehydrate, checked, Except.map]

end McServer.Store
