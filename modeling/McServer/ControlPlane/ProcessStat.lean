import McServer.ControlPlane.Operations
import McServer.Library.Lines

set_option autoImplicit false

namespace McServer.ControlPlane

open Domain

-- `rfind`, and the text after what it finds.
def afterLast (mark : Char) (chars : List Char) : Option (List Char) :=
  if chars.contains mark then some (chars.rtakeWhile (· != mark)) else none

theorem afterLast_append (mark : Char) (front rest : List Char) :
    afterLast mark (front ++ mark :: rest) = some (rest.rtakeWhile (· != mark)) := by
  have present : (front ++ mark :: rest).contains mark = true := by simp
  rw [afterLast, if_pos present, List.rtakeWhile, List.reverse_append, List.reverse_cons, List.append_assoc,
    List.takeWhile_append]
  split
  · rename_i whole
    have same := (List.takeWhile_prefix (· != mark) (l := rest.reverse)).eq_of_length whole
    simp [List.rtakeWhile, same]
  · simp [List.rtakeWhile]

def parseLinuxProcessStat (value : String) : Option LinuxProcessState := do
  let fields := Lines.words Text.isWhitespace (← afterLast ')' value.toList)
  let state ← (← fields.head?).head?
  let startTimeTicks ← Text.parseU64 (String.ofList (← fields.tail[18]?))
  return { state, startTimeTicks }

structure StatLine where
  processId : Nat
  name : String
  state : Char
  state_visible : Text.isWhitespace state = false
  state_plain : state ≠ ')'
  gap : List Char
  apart : gap ≠ []
  gap_separates : ∀ char ∈ gap, Text.isWhitespace char = true
  fields : List (Lines.Spaced Text.isWhitespace)
  ending : List Char
  ending_separates : ∀ char ∈ ending, Text.isWhitespace char = true

-- The fourth field is the first of `fields`, so the start time, field 22, is the one at 18.
def startTimeIndex : Nat := 22 - 4

def Decimal (word : List Char) : Prop := word ≠ [] ∧ ∀ char ∈ word, Text.isAsciiDigit char = true

theorem Decimal.visible {word : List Char} (decimal : Decimal word) :
    ∀ char ∈ word, Text.isWhitespace char = false := by
  intro char member
  have digit := decimal.2 char member
  simp only [Text.isAsciiDigit, Bool.and_eq_true, decide_eq_true_eq] at digit
  change 48 ≤ char.toNat ∧ char.toNat ≤ 57 at digit
  apply Text.isWhitespace_false <;> omega

theorem toDigits_decimal (value : Nat) : Decimal (Nat.toDigits 10 value) :=
  ⟨Nat.toDigits_ne_nil, fun _ member =>
    Text.isAsciiDigit_of_isDigit (Nat.isDigit_of_mem_toDigits (by decide) (by decide) member)⟩

def Numeric (word : List Char) : Prop := ∃ digits, Decimal digits ∧ (word = digits ∨ word = '-' :: digits)

def number (digits : List Char) : Nat := Nat.ofDigitChars 10 digits 0

theorem number_toDigits (value : Nat) : number (Nat.toDigits 10 value) = value := by
  unfold number
  exact Nat.ofDigitChars_toDigits (b := 10) (by decide) (by decide)

theorem Numeric.unparenthesized {word : List Char} (numeric : Numeric word) : ')' ∉ word := by
  obtain ⟨digits, decimal, rfl | rfl⟩ := numeric
  · intro member
    exact absurd (decimal.2 _ member) (by decide)
  · intro member
    rcases List.mem_cons.mp member with same | member
    · exact absurd same (by decide)
    · exact absurd (decimal.2 _ member) (by decide)

namespace StatLine

variable (line : StatLine)

def stateField : Lines.Spaced Text.isWhitespace where
  gap := line.gap
  word := [line.state]
  apart := line.apart
  gap_separates := line.gap_separates
  shown := List.cons_ne_nil _ _
  word_plain := List.forall_mem_singleton.mpr line.state_visible

def tail : List Char := Lines.spread (line.stateField :: line.fields) line.ending

def text : String :=
  toString line.processId ++ " (" ++ line.name ++ String.ofList (')' :: line.tail)

theorem afterLast_text :
    afterLast ')' line.text.toList = some (line.tail.rtakeWhile (· != ')')) := by
  simpa [text] using afterLast_append ')' ((toString line.processId ++ " (" ++ line.name).toList) line.tail

variable {line}

theorem tail_unparenthesized (numeric : ∀ field ∈ line.fields, Numeric field.word) : ')' ∉ line.tail := by
  have blank : ∀ gap : List Char, (∀ char ∈ gap, Text.isWhitespace char = true) → ')' ∉ gap := by
    intro gap separates member
    exact absurd (separates _ member) (by decide)
  have each : ∀ field ∈ line.fields, ')' ∉ field.gap ++ field.word := by
    intro field member
    simp [blank field.gap field.gap_separates, (numeric field member).unparenthesized]
  intro member
  simp only [tail, Lines.spread, stateField, List.flatMap_cons, List.mem_append, List.mem_flatMap,
    List.mem_singleton] at member
  rcases member with ((inside | same) | ⟨field, there, inside⟩) | after
  · exact blank _ line.gap_separates inside
  · exact line.state_plain same.symm
  · exact each field there (List.mem_append.mpr inside)
  · exact blank _ line.ending_separates after

theorem words_tail :
    Lines.words Text.isWhitespace line.tail = [line.state] :: line.fields.map Lines.Spaced.word :=
  Lines.words_spread line.ending_separates _

end StatLine

theorem parse_of_few_words {value : String} {rest : List Char} (found : afterLast ')' value.toList = some rest)
    (few : (Lines.words Text.isWhitespace rest).length ≤ startTimeIndex + 1) :
    parseLinuxProcessStat value = none := by
  have missing : (Lines.words Text.isWhitespace rest).tail[18]? = none := by
    rw [List.getElem?_eq_none_iff, List.length_tail]
    simp only [startTimeIndex] at few
    omega
  simp only [parseLinuxProcessStat, found, Option.bind_eq_bind, Option.bind_some, missing, Option.bind_none,
    Option.bind_fun_none]

theorem parse_line {line : StatLine} (numeric : ∀ field ∈ line.fields, Numeric field.word)
    {field : Lines.Spaced Text.isWhitespace} (present : line.fields[startTimeIndex]? = some field)
    (decimal : Decimal field.word) :
    parseLinuxProcessStat line.text =
      if number field.word ≤ maximumU64 then some { state := line.state, startTimeTicks := number field.word }
      else none := by
  have whole : line.tail.rtakeWhile (· != ')') = line.tail := by
    rw [List.rtakeWhile_eq_self_iff]
    intro char member
    simp only [bne_iff_ne]
    rintro rfl
    exact StatLine.tail_unparenthesized numeric member
  have ticks : (line.fields.map Lines.Spaced.word)[18]? = some field.word := by
    rw [List.getElem?_map]
    simp only [startTimeIndex] at present
    rw [present]
    rfl
  simp only [parseLinuxProcessStat, line.afterLast_text, whole, StatLine.words_tail, Option.bind_eq_bind,
    Option.bind_some, List.head?_cons, List.tail_cons, ticks, Text.parseU64_ofList decimal.1 decimal.2]
  rw [show Nat.ofDigitChars 10 field.word 0 = number field.word from rfl]
  by_cases fits : number field.word ≤ maximumU64 <;> simp [fits]

theorem process_start_time_found (line : StatLine) :
    ((∀ field ∈ line.fields, Numeric field.word) → ∀ field, line.fields[startTimeIndex]? = some field →
        Decimal field.word → parseLinuxProcessStat line.text =
          if number field.word ≤ maximumU64 then some { state := line.state, startTimeTicks := number field.word }
          else none) ∧
      (line.fields.length ≤ startTimeIndex → parseLinuxProcessStat line.text = none) := by
  constructor
  · intro numeric field present decimal
    exact parse_line numeric present decimal
  · intro few
    apply parse_of_few_words line.afterLast_text
    have bound := @Lines.length_words_suffix _ Text.isWhitespace _ _ (List.rtakeWhile_suffix (· != ')') line.tail)
    rw [StatLine.words_tail, List.length_cons, List.length_map] at bound
    omega

namespace Sample

def field (value : Nat) : Lines.Spaced Text.isWhitespace where
  gap := [' ']
  word := Nat.toDigits 10 value
  apart := List.cons_ne_nil _ _
  gap_separates := by simp [Text.isWhitespace]
  shown := Nat.toDigits_ne_nil
  word_plain := (toDigits_decimal value).visible

theorem fields_numeric (values : List Nat) : ∀ shown ∈ values.map field, Numeric shown.word := by
  intro shown member
  obtain ⟨value, -, rfl⟩ := List.mem_map.mp member
  exact ⟨_, toDigits_decimal value, .inl rfl⟩

def statLine (name : String) (values : List Nat) : StatLine where
  processId := 42
  name
  state := 'S'
  state_visible := by decide
  state_plain := by decide
  gap := [' ']
  apart := List.cons_ne_nil _ _
  gap_separates := by simp [Text.isWhitespace]
  fields := values.map field
  ending := []
  ending_separates := by simp

end Sample

open Sample in
theorem process_start_time_of_test_lines :
    parseLinuxProcessStat
        "42 (node agent (test)) S 1 2 3 4 5 6 7 8 9 10 11 12 13 14 15 16 17 18 987654 20" =
      some { state := 'S', startTimeTicks := 987654 } ∧
    parseLinuxProcessStat "42 (agent) S 1 2" = none := by
  have whole : (statLine "node agent (test)" (List.range' 1 18 ++ [987654, 20])).text =
      "42 (node agent (test)) S 1 2 3 4 5 6 7 8 9 10 11 12 13 14 15 16 17 18 987654 20" := by decide +kernel
  have short : (statLine "agent" [1, 2]).text = "42 (agent) S 1 2" := by decide +kernel
  have ticks : number (field 987654).word = 987654 := number_toDigits 987654
  rw [← whole, ← short]
  constructor
  · rw [(process_start_time_found (statLine _ _)).1 (fields_numeric _) (field 987654) rfl
      (toDigits_decimal 987654), ticks]
    decide
  · exact (process_start_time_found (statLine _ _)).2 (by decide)

inductive ReadError where
  | notFound
  | invalidData (message : String)
  | other (message : String)

def readToString (read : Except ReadError (List UInt8)) : Except ReadError String :=
  match read with
  | .error error => .error error
  | .ok encoded =>
      match Text.fromUtf8 encoded with
      | some text => .ok text
      | none => .error (.invalidData "stream did not contain valid UTF-8")

def readLinuxProcessState (procfs : Nat → Except ReadError (List UInt8)) (processId : Nat) :
    Except ReadError LinuxProcessState :=
  match readToString (procfs processId) with
  | .error error => .error error
  | .ok encoded =>
      match parseLinuxProcessStat encoded with
      | some state => .ok state
      | none => .error (.invalidData ("invalid /proc/" ++ toString processId ++ "/stat data"))

structure StatLine.Shows (line : StatLine) (process : LinuxProcessState) : Prop where
  numeric : ∀ field ∈ line.fields, Numeric field.word
  state : line.state = process.state
  startTime : ∃ field, line.fields[startTimeIndex]? = some field ∧ Decimal field.word ∧
    number field.word = process.startTimeTicks
  bounded : process.startTimeTicks ≤ maximumU64

theorem StatLine.Shows.parsed {line : StatLine} {process : LinuxProcessState} (shows : line.Shows process) :
    parseLinuxProcessStat line.text = some process := by
  obtain ⟨field, present, decimal, ticks⟩ := shows.startTime
  rw [parse_line shows.numeric present decimal, ticks, if_pos shows.bounded, shows.state]

-- A read may fail, and the name of a process may be no text: the kernel bounds the bytes of a name only.
structure Procfs (machine : LocalMachine) where
  stat : Nat → Except ReadError (List UInt8)
  absent : ∀ processId, machine.processes processId = none → stat processId = .error .notFound
  shown : ∀ processId process encoded, machine.processes processId = some process → stat processId = .ok encoded →
    ∀ text, Text.fromUtf8 encoded = some text → ∃ line : StatLine, text = line.text ∧ line.Shows process

theorem readLinuxProcessState_shown {machine : LocalMachine} (procfs : Procfs machine) (processId : Nat) :
    readLinuxProcessState procfs.stat processId =
      match machine.processes processId, procfs.stat processId with
      | none, _ => .error .notFound
      | some _, .error error => .error error
      | some process, .ok encoded =>
          if (Text.fromUtf8 encoded).isSome then .ok process
          else .error (.invalidData "stream did not contain valid UTF-8") := by
  cases running : machine.processes processId with
  | none => simp [readLinuxProcessState, readToString, procfs.absent processId running]
  | some process =>
    cases file : procfs.stat processId with
    | error error => simp [readLinuxProcessState, readToString, file]
    | ok encoded =>
      cases decoded : Text.fromUtf8 encoded with
      | none => simp [readLinuxProcessState, readToString, file, decoded]
      | some text =>
        obtain ⟨line, rfl, shows⟩ := procfs.shown processId process encoded running file text decoded
        simp [readLinuxProcessState, readToString, file, decoded, shows.parsed]

namespace Sample

def process : LinuxProcessState := { state := 'S', startTimeTicks := 987654 }

def shownLine : StatLine := statLine "node agent (test)" (List.range' 1 18 ++ [987654, 20])

theorem shownLine_shows : shownLine.Shows process where
  numeric := fields_numeric _
  state := rfl
  startTime := ⟨field 987654, rfl, toDigits_decimal 987654, number_toDigits 987654⟩
  bounded := by decide

-- Process 42 has a name in UTF-8, 43 has none, and 44 may not be looked at.
def machine : LocalMachine where
  bootId := "boot"
  processes processId := if 42 ≤ processId ∧ processId ≤ 44 then some process else none
  runtimeStates _ := none
  computes := []
  directories := []
  children _ := none

def stat (processId : Nat) : Except ReadError (List UInt8) :=
  if processId = 42 then .ok (Text.bytes shownLine.text)
  else if processId = 43 then .ok [0xff]
  else if processId = 44 then .error (.other "permission denied")
  else .error .notFound

theorem undecoded : Text.fromUtf8 [0xff] = none := by decide +kernel

def procfs : Procfs machine where
  stat := stat
  absent processId gone := by
    have outside : ¬(42 ≤ processId ∧ processId ≤ 44) := by simpa [machine] using gone
    simp only [stat]
    rw [if_neg (by omega), if_neg (by omega), if_neg (by omega)]
  shown processId found encoded running file text decoded := by
    have same : found = process := by
      simp only [machine] at running
      split at running
      · exact (Option.some.inj running).symm
      · cases running
    simp only [stat] at file
    split at file
    · obtain rfl := Except.ok.inj file
      rw [Text.fromUtf8_bytes] at decoded
      exact ⟨shownLine, (Option.some.inj decoded).symm, same ▸ shownLine_shows⟩
    · split at file
      · obtain rfl := Except.ok.inj file
        rw [undecoded] at decoded
        cases decoded
      · split at file <;> cases file

end Sample

theorem sample_processes_read :
    readLinuxProcessState Sample.procfs.stat 42 = .ok Sample.process ∧
      readLinuxProcessState Sample.procfs.stat 43 =
        .error (.invalidData "stream did not contain valid UTF-8") ∧
      readLinuxProcessState Sample.procfs.stat 44 = .error (.other "permission denied") ∧
      readLinuxProcessState Sample.procfs.stat 45 = .error .notFound := by
  refine ⟨(readLinuxProcessState_shown Sample.procfs 42).trans ?_,
    (readLinuxProcessState_shown Sample.procfs 43).trans ?_,
    (readLinuxProcessState_shown Sample.procfs 44).trans rfl,
    (readLinuxProcessState_shown Sample.procfs 45).trans rfl⟩
  · have decoded := Text.fromUtf8_bytes Sample.shownLine.text
    exact if_pos (Option.isSome_iff_exists.mpr ⟨_, decoded⟩)
  · exact if_neg (by rw [Sample.undecoded]; simp)

end McServer.ControlPlane
