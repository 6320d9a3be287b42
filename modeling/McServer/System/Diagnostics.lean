import McServer.System.Rows
import McServer.Store.Publishing

set_option autoImplicit false

namespace McServer.Agent

open Domain

def continues (byte : UInt8) : Bool := 0x80 ≤ byte && byte ≤ 0xbf

def secondFits (first second : UInt8) : Bool :=
  if first = 0xe0 then 0xa0 ≤ second && second ≤ 0xbf
  else if first = 0xed then 0x80 ≤ second && second ≤ 0x9f
  else if first = 0xf0 then 0x90 ≤ second && second ≤ 0xbf
  else if first = 0xf4 then 0x80 ≤ second && second ≤ 0x8f
  else continues second

def replacement : Char := Char.ofNat 0xfffd

def expected (first : UInt8) : Option (Nat × List (UInt8 → Bool)) :=
  if first < 0x80 then some (first.toNat, [])
  else if 0xc2 ≤ first ∧ first ≤ 0xdf then some (first.toNat - 0xc0, [continues])
  else if 0xe0 ≤ first ∧ first ≤ 0xef then some (first.toNat - 0xe0, [secondFits first, continues])
  else if 0xf0 ≤ first ∧ first ≤ 0xf4 then some (first.toNat - 0xf0, [secondFits first, continues, continues])
  else none

def matching : List (UInt8 → Bool) → List UInt8 → Nat
  | test :: tests, byte :: rest => if test byte then matching tests rest + 1 else 0
  | _, _ => 0

def nextChar (first : UInt8) (rest : List UInt8) : Option Char × Nat :=
  match expected first with
  | none => (none, 0)
  | some (lead, tests) =>
    let used := matching tests rest
    let code := (rest.take used).foldl (fun code byte => code * 2 ^ 6 + (byte.toNat - 0x80)) lead
    (if used = tests.length then some (Char.ofNat code) else none, used)

-- `skip` bytes belong to the character before.
def decodeFrom : Nat → List UInt8 → List Char
  | _, [] => []
  | skip + 1, _ :: rest => decodeFrom skip rest
  | 0, first :: rest =>
    let next := nextChar first rest
    next.1.getD replacement :: decodeFrom next.2 rest

def decodeLossy (bytes : List UInt8) : List Char := decodeFrom 0 bytes

example : decodeLossy [0x61, 0xe2, 0x80, 0xa6, 0xff, 0xe2, 0x80, 0x62] =
    ['a', '…', replacement, replacement, 'b'] := by decide

def maxDiagnosticBytes : Nat := 8192

def boundedDiagnostic (input : List UInt8) : String :=
  let diagnostic := Text.trim (String.ofList (decodeLossy (input.take maxDiagnosticBytes)))
  if input.length > maxDiagnosticBytes then diagnostic ++ " …[truncated]" else diagnostic

def commandFailure (description : String) (status : Option Int) (stderr : List UInt8) : ExecutorError :=
  .commandFailed description status (boundedDiagnostic stderr)

theorem expected_rejects_nul {first : UInt8} {lead : Nat} {tests : List (UInt8 → Bool)}
    (tested : expected first = some (lead, tests)) : ∀ test ∈ tests, test 0 = false := by
  have second : secondFits first 0 = false := by
    unfold secondFits
    split_ifs <;> decide
  have other : continues 0 = false := by decide
  unfold expected at tested
  split_ifs at tested <;> simp only [Option.some.injEq, Prod.mk.injEq] at tested <;>
    obtain ⟨-, rfl⟩ := tested <;> simp [second, other]

theorem nul_mem_drop_matching {tests : List (UInt8 → Bool)} {rest : List UInt8}
    (rejects : ∀ test ∈ tests, test 0 = false) (nul : 0 ∈ rest) : 0 ∈ rest.drop (matching tests rest) := by
  induction tests generalizing rest with
  | nil => simpa [matching] using nul
  | cons test tests ih =>
    cases rest with
    | nil => simp at nul
    | cons byte rest =>
      by_cases fits : test byte = true
      · have other : (0 : UInt8) ≠ byte := by
          rintro rfl
          simp [rejects test (by simp)] at fits
        simpa [matching, fits] using ih (fun test mem => rejects test (by simp [mem])) (by simpa [other] using nul)
      · simpa [matching, fits] using nul

theorem nul_mem_drop {first : UInt8} {rest : List UInt8} (nul : 0 ∈ rest) :
    0 ∈ rest.drop (nextChar first rest).2 := by
  unfold nextChar
  cases tested : expected first with
  | none => exact nul
  | some pair => exact nul_mem_drop_matching (expected_rejects_nul tested) nul

theorem nul_mem_decodeFrom {skip : Nat} {bytes : List UInt8} (nul : 0 ∈ bytes.drop skip) :
    Char.ofNat 0 ∈ decodeFrom skip bytes := by
  induction bytes generalizing skip with
  | nil => simp at nul
  | cons first rest ih =>
    cases skip with
    | succ skip => exact ih (by simpa using nul)
    | zero =>
      rcases List.mem_cons.mp nul with rfl | later
      · exact List.mem_cons.mpr (.inl (by simp [nextChar, expected, matching]))
      · exact List.mem_cons.mpr (.inr (ih (nul_mem_drop later)))

theorem nul_mem_decodeLossy {bytes : List UInt8} (nul : 0 ∈ bytes) : Char.ofNat 0 ∈ decodeLossy bytes :=
  nul_mem_decodeFrom (by simpa using nul)

theorem mem_dropWhile_whitespace {char : Char} {chars : List Char} (visible : Text.isWhitespace char = false)
    (mem : char ∈ chars) : char ∈ chars.dropWhile Text.isWhitespace := by
  have split := @List.takeWhile_append_dropWhile Char Text.isWhitespace chars
  rw [← split, List.mem_append] at mem
  rcases mem with first | rest
  · have blank := List.mem_takeWhile_imp first
    simp [visible] at blank
  · exact rest

theorem nul_mem_trim {chars : List Char} (nul : Char.ofNat 0 ∈ chars) :
    Char.ofNat 0 ∈ (Text.trim (String.ofList chars)).toList := by
  have visible : Text.isWhitespace (Char.ofNat 0) = false := by decide
  have front := mem_dropWhile_whitespace visible nul
  have back := mem_dropWhile_whitespace visible (List.mem_reverse.mpr front)
  simpa [Text.trim, List.rdropWhile] using back

theorem boundedDiagnostic_nul {input : List UInt8} (nul : 0 ∈ input.take maxDiagnosticBytes) :
    Char.ofNat 0 ∈ (boundedDiagnostic input).toList := by
  have kept := nul_mem_trim (nul_mem_decodeLossy nul)
  unfold boundedDiagnostic
  dsimp only
  split
  · simp [kept]
  · exact kept

end McServer.Agent

namespace McServer.System

open Domain Store Agent ControlPlane

theorem mem_append_text {start text : String} {char : Char} (mem : char ∈ text.toList) :
    char ∈ (start ++ text).toList := by
  rw [String.toList_append]
  exact List.mem_append_right _ mem

theorem commandFailed_ends (description : String) (status : Option Int) (diagnostic : String) :
    ∃ start, (ExecutorError.commandFailed description status diagnostic).message = start ++ diagnostic :=
  ⟨_, rfl⟩

theorem executionFailed_ends {error : ExecutorError} (visible : Text.isBlank error.message = false) :
    ∃ code start, executionFailed error = .remote code (start ++ error.message) := by
  unfold executionFailed
  rw [visible]
  exact ⟨_, _, rfl⟩

theorem remote_ends (code : Int) (message : String) :
    ∃ start, (AgentCallError.remote code message).message = start ++ message := ⟨_, rfl⟩

theorem agent_ends (error : AgentCallError) :
    ∃ start, (ReconcileError.agent error).message = start ++ error.message := ⟨_, rfl⟩

theorem relayed_char {stderr : List UInt8} {char : Char} (mem : char ∈ (boundedDiagnostic stderr).toList)
    (plain : Text.isWhitespace char = false) (description : String) (status : Option Int) :
    char ∈ (ReconcileError.agent (executionFailed (commandFailure description status
      stderr))).message.toList := by
  have here : char ∈ (commandFailure description status stderr).message.toList := by
    obtain ⟨start, ends⟩ := commandFailed_ends description status (boundedDiagnostic stderr)
    rw [commandFailure, ends]
    exact mem_append_text mem
  obtain ⟨code, start, failed⟩ := executionFailed_ends (Text.isBlank_false here plain)
  obtain ⟨outer, ends⟩ := agent_ends (executionFailed (commandFailure description status stderr))
  obtain ⟨inner, rejected⟩ := remote_ends code (start ++ (commandFailure description status stderr).message)
  rw [ends, failed, rejected]
  exact mem_append_text (mem_append_text (mem_append_text here))

def withError (message : String) (now : UnixTimestampMillis) (row : ServerInstance) : ServerInstance :=
  { row with
    lastError := some (Text.takeChars 8192 message)
    updatedAt := max now (max row.updatedAt row.createdAt) }

structure ErrorShown (db : Database) (row : ServerInstance) (message : String) (now : UnixTimestampMillis)
    (outcome : Except RepositoryError Unit × Database) : Prop where
  succeeds : outcome.1 = .ok ()
  stored : outcome.2 = { db with
    serverInstances := db.serverInstances.map fun other =>
      if other.id = row.id then withError message now row else other }
  accepted : (withError message now row).rehydrate = .ok (withError message now row)

section Recording

variable {db : Database} {row : ServerInstance} (unique : Table.Unique (fun row => row.id) db.serverInstances)
  (member : row ∈ db.serverInstances) (active : row.isActive = true)

include unique member active in
theorem recordError_eq (message : String) (now : UnixTimestampMillis) :
    ServerInstanceRepository.recordError row.id message now db =
      if instanceCheck (withError message now row) then
        (.ok (), { db with
          serverInstances := db.serverInstances.map fun other =>
            if other.id = row.id then withError message now row else other })
      else (.error .database, db) := by
  have only : ∀ other ∈ db.serverInstances, other.id = row.id → other = row := fun other there same =>
    unique.eq_of_key there member same
  have running : row.terminatedAt.isNone = true := active
  have updated : Table.update (fun other : ServerInstance => other.id = row.id && other.terminatedAt.isNone)
      (withError message now) db.serverInstances =
        db.serverInstances.map fun other => if other.id = row.id then withError message now row else other := by
    refine List.map_congr_left fun other there => ?_
    by_cases same : other.id = row.id
    · simp [only other there same, running]
    · simp [same]
  have passes : (db.serverInstances.all fun other => !(other.id = row.id && other.terminatedAt.isNone) ||
      instanceCheck (withError message now other)) = instanceCheck (withError message now row) := by
    rw [Bool.eq_iff_iff, List.all_eq_true]
    constructor
    · intro all
      simpa [running] using all row member
    · intro check other there
      by_cases same : other.id = row.id
      · simp [only other there same, check]
      · simp [same]
  have rows : updateRows instanceCheck
      (fun other : ServerInstance => other.id = row.id && other.terminatedAt.isNone) (withError message now)
      db.serverInstances = if instanceCheck (withError message now row) then
        some (db.serverInstances.map fun other => if other.id = row.id then withError message now row else other)
        else none := by
    rw [updateRows, passes, updated]
  change ignoreCount (updateTable _ _ _ _ (withError message now)) db = _
  simp only [ignoreCount, updateTable, rows]
  by_cases check : instanceCheck (withError message now row) = true <;> simp [check, Except.map]

theorem clean_of_check {message : String} {now : UnixTimestampMillis}
    (check : instanceCheck (withError message now row) = true) :
    Text.containsNul (Text.takeChars 8192 message) = false := by
  simp only [instanceCheck, withError, textWithin, Bool.and_eq_true, Option.all_some, Bool.not_eq_true'] at check
  exact check.1.1.1.1.1.1.1.1.1.2.2

include unique member active in
theorem error_shown_iff (checked : instanceCheck row = true) (accepted : row.rehydrate = .ok row)
    (error : ReconcileError) (now : UnixTimestampMillis) :
    ErrorShown db row error.message now
        (ServerInstanceRepository.recordError row.id error.message now db) ↔
      Text.containsNul (Text.takeChars 8192 error.message) = false := by
  rw [recordError_eq unique member active]
  constructor
  · rintro ⟨succeeds, -, -⟩
    by_cases check : instanceCheck (withError error.message now row) = true
    · exact clean_of_check check
    · simp [check] at succeeds
  · intro clean
    have legible : Legible maxErrorChars (Text.takeChars 8192 error.message) :=
      ⟨message_visible error, by simp [Text.charCount_takeChars, maxErrorChars], clean⟩
    have sound : InstanceSound (withError error.message now row) :=
      (InstanceSound.of_accepted checked accepted).recordError (by simpa [ServerInstance.isActive] using active)
        legible now
    rw [if_pos sound.check]
    exact ⟨rfl, rfl, sound.rehydrate⟩

end Recording

namespace Sample

def unpublished : ServerInstance :=
  { id := ⟨2⟩, serverId := ⟨1⟩, serverGeneration := 1, resolvedSpec := (Server.sample 1).spec
    fencingToken := 1, sourceSnapshotId := none, dataPreparedAt := none, processRunning := false
    processObservedAt := none, resultSnapshotId := none, stopRequestedAt := none, terminatedAt := none
    terminalResult := none, lastError := none, createdAt := 1, updatedAt := 1 }

def garbled : ReconcileError :=
  .agent (executionFailed (commandFailure "podman" (some 125) [0x62, 0x61, 0x64, 0x00, 0x0a]))

end Sample

theorem unpublished_accepted :
    Table.Unique (fun row : ServerInstance => row.id) Database.sample.serverInstances ∧
      Sample.unpublished ∈ Database.sample.serverInstances ∧ instanceCheck Sample.unpublished = true ∧
      Sample.unpublished.rehydrate = .ok Sample.unpublished :=
  ⟨List.nodup_singleton _, List.mem_singleton.mpr rfl, by decide, by decide⟩

theorem error_shown_without_nul :
    ErrorShown Database.sample Sample.unpublished (ReconcileError.agent .timeout).message 5
      (ServerInstanceRepository.recordError Sample.unpublished.id (ReconcileError.agent .timeout).message 5
        Database.sample) := by
  obtain ⟨unique, member, checked, accepted⟩ := unpublished_accepted
  exact (error_shown_iff unique member rfl checked accepted (.agent .timeout) 5).mpr (by decide)

theorem nul_hides_error :
    ServerInstanceRepository.recordError Sample.unpublished.id Sample.garbled.message 5 Database.sample =
        (.error .database, Database.sample) ∧
      ¬ErrorShown Database.sample Sample.unpublished Sample.garbled.message 5
        (ServerInstanceRepository.recordError Sample.unpublished.id Sample.garbled.message 5 Database.sample) := by
  obtain ⟨unique, member, -, -⟩ := unpublished_accepted
  have nul : Text.containsNul (Text.takeChars 8192 Sample.garbled.message) = true := by
    have short : Text.charCount Sample.garbled.message ≤ 8192 :=
      Nat.le_trans (Text.charCount_le_utf8ByteSize _) (by decide +kernel)
    have mem : Char.ofNat 0 ∈ Sample.garbled.message.toList :=
      relayed_char (boundedDiagnostic_nul (by decide)) (by decide) "podman" (some 125)
    simpa [Text.containsNul, Text.takeChars, List.take_of_length_le short] using mem
  have refused : ¬instanceCheck (withError Sample.garbled.message 5 Sample.unpublished) = true := fun check => by
    rw [clean_of_check check] at nul
    cases nul
  have outcome := recordError_eq unique member rfl Sample.garbled.message 5
  rw [if_neg refused] at outcome
  refine ⟨outcome, fun shown => ?_⟩
  have succeeds := shown.succeeds
  rw [outcome] at succeeds
  cases succeeds

end McServer.System
