import Mathlib.Data.List.Basic

set_option autoImplicit false

namespace Lines

section Cutting

variable {A : Type} [DecidableEq A] (terminator : A)

def lines : List A → List (List A)
  | [] => []
  | item :: rest =>
    if item = terminator then [item] :: lines rest
    else
      match lines rest with
      | [] => [[item]]
      | line :: others => (item :: line) :: others

def joined (items : List A) : List (List A) → List (List A)
  | [] => [items]
  | line :: others => (items ++ line) :: others

omit [DecidableEq A] in
theorem headD_joined (items : List A) (ahead : List (List A)) :
    (joined items ahead).headD [] = items ++ ahead.headD [] := by
  cases ahead <;> simp [joined]

omit [DecidableEq A] in
theorem tail_joined (items : List A) (ahead : List (List A)) : (joined items ahead).tail = ahead.tail := by
  cases ahead <;> simp [joined]

variable {terminator}

theorem lines_append_of_not_mem {items : List A} (rest : List A) (plain : terminator ∉ items)
    (shown : items ≠ []) : lines terminator (items ++ rest) = joined items (lines terminator rest) := by
  induction items with
  | nil => exact absurd rfl shown
  | cons item others ih =>
    have here : item ≠ terminator := fun same => plain (by simp [same])
    have there : terminator ∉ others := fun mem => plain (by simp [mem])
    by_cases last : others = []
    · cases cut : lines terminator rest <;> simp [lines, joined, here, last, cut]
    · cases cut : lines terminator rest <;> simp [lines, joined, here, ih there last, cut]

theorem lines_append_terminator {body : List A} (rest : List A) (plain : terminator ∉ body) :
    lines terminator (body ++ terminator :: rest) = (body ++ [terminator]) :: lines terminator rest := by
  by_cases empty : body = []
  · simp [lines, empty]
  · rw [lines_append_of_not_mem _ plain empty]
    simp [lines, joined]

theorem flatten_lines (stream : List A) : (lines terminator stream).flatten = stream := by
  induction stream with
  | nil => rfl
  | cons item rest ih =>
    by_cases here : item = terminator
    · simp [lines, here, ih]
    · cases cut : lines terminator rest with
      | nil =>
        have none : rest = [] := by simpa [cut] using ih.symm
        simp [lines, none, here]
      | cons line others =>
        have together : line ++ others.flatten = rest := by simpa [cut] using ih
        simp [lines, here, cut, together]

theorem lines_flatten {pieces : List (List A)}
    (ended : ∀ piece ∈ pieces, ∃ body, piece = body ++ [terminator] ∧ terminator ∉ body) :
    lines terminator pieces.flatten = pieces := by
  induction pieces with
  | nil => rfl
  | cons piece rest ih =>
    obtain ⟨⟨body, rfl, plain⟩, others⟩ := List.forall_mem_cons.mp ended
    rw [List.flatten_cons, List.append_assoc, List.singleton_append, lines_append_terminator _ plain, ih others]

theorem length_le_of_mem_lines {stream line : List A} (mem : line ∈ lines terminator stream) :
    line.length ≤ stream.length := by
  have part := (List.sublist_flatten_of_mem mem).length_le
  rwa [flatten_lines] at part

end Cutting

section Words

variable {A : Type} (separator : A → Bool)

def words (items : List A) : List (List A) := (items.splitOnP separator).filter fun word => !word.isEmpty

structure Spaced where
  gap : List A
  word : List A
  apart : gap ≠ []
  gap_separates : ∀ item ∈ gap, separator item = true
  shown : word ≠ []
  word_plain : ∀ item ∈ word, separator item = false

variable {separator}

def spread (pieces : List (Spaced separator)) (ending : List A) : List A :=
  (pieces.flatMap fun piece => piece.gap ++ piece.word) ++ ending

theorem words_gap {gap : List A} (separates : ∀ item ∈ gap, separator item = true) (rest : List A) :
    words separator (gap ++ rest) = words separator rest := by
  induction gap with
  | nil => rfl
  | cons item others ih =>
    rw [List.forall_mem_cons] at separates
    rw [← ih separates.2]
    simp [words, List.splitOnP_cons_eq_if_modifyHead, separates.1]

theorem words_word {word rest : List A} (shown : word ≠ []) (plain : ∀ item ∈ word, separator item = false)
    (stops : ∀ item ∈ rest.head?, separator item = true) :
    words separator (word ++ rest) = word :: words separator rest := by
  cases rest with
  | nil => simp [words, List.splitOnP_eq_singleton plain, shown]
  | cons item others =>
    have stop : separator item = true := stops item rfl
    have skip := words_gap (List.forall_mem_singleton.mpr stop) others
    rw [List.singleton_append] at skip
    rw [skip]
    simp [words, List.splitOnP_append_cons_of_forall_mem plain item stop, shown]

theorem head_spread {ending : List A} (separates : ∀ item ∈ ending, separator item = true)
    (pieces : List (Spaced separator)) : ∀ item ∈ (spread pieces ending).head?, separator item = true := by
  intro item first
  cases pieces with
  | nil => exact separates item (List.mem_of_mem_head? first)
  | cons piece others =>
    cases opens : piece.gap with
    | nil => exact absurd opens piece.apart
    | cons head tail =>
      obtain rfl : head = item := by simpa [spread, opens] using first
      exact piece.gap_separates head (by simp [opens])

theorem words_spread {ending : List A} (separates : ∀ item ∈ ending, separator item = true)
    (pieces : List (Spaced separator)) : words separator (spread pieces ending) = pieces.map Spaced.word := by
  induction pieces with
  | nil => simpa [spread, words] using words_gap separates []
  | cons piece others ih =>
    have split : spread (piece :: others) ending = piece.gap ++ (piece.word ++ spread others ending) := by
      simp [spread]
    rw [split, words_gap piece.gap_separates,
      words_word piece.shown piece.word_plain (head_spread separates others), ih, List.map_cons]

theorem length_words_suffix {items whole : List A} (suffix : items <:+ whole) :
    (words separator items).length ≤ (words separator whole).length := by
  obtain ⟨front, rfl⟩ := suffix
  induction front with
  | nil => simp
  | cons item others ih =>
    apply Nat.le_trans ih
    by_cases stop : separator item = true
    · simp [words, List.splitOnP_cons_eq_if_modifyHead, stop]
    · cases cut : (others ++ items).splitOnP separator with
      | nil => simp [words, cut]
      | cons first rest =>
        by_cases empty : first = [] <;> simp [words, List.splitOnP_cons_eq_if_modifyHead, stop, cut, empty]

end Words

section Readers

structure Chunks (A : Type) where
  chunks : List (List A)
  filled : ∀ chunk ∈ chunks, chunk ≠ []

-- A buffered reader. After the last chunk it reports that the stream has ended, or fails.
structure Reader (A E : Type) extends Chunks A where
  failure : Option E

variable {A E : Type}

def Chunks.reader (chunks : Chunks A) : Reader A E := { chunks with failure := none }

namespace Reader

def remaining (reader : Reader A E) : List A := reader.chunks.flatten

def fillBuf (reader : Reader A E) : Except E (List A) :=
  match reader.chunks with
  | [] => reader.failure.elim (.ok []) .error
  | chunk :: _ => .ok chunk

def consume (reader : Reader A E) (count : Nat) : Reader A E where
  chunks :=
    match reader.chunks with
    | [] => []
    | chunk :: rest => if count < chunk.length then chunk.drop count :: rest else rest
  filled := by
    intro chunk mem
    cases held : reader.chunks with
    | nil => simp [held] at mem
    | cons first rest =>
      have others : ∀ chunk ∈ rest, chunk ≠ [] := fun chunk there =>
        reader.filled chunk (by simp [held, there])
      by_cases part : count < first.length
      · simp only [held, part, if_true, List.mem_cons] at mem
        rcases mem with rfl | mem
        · simpa using part
        · exact others chunk mem
      · simp only [held, part, if_false] at mem
        exact others chunk mem
  failure := reader.failure

theorem fillBuf_shows {reader : Reader A E} {available : List A} (fill : reader.fillBuf = .ok available) :
    available <+: reader.remaining ∧ (available = [] → reader.remaining = []) := by
  cases held : reader.chunks with
  | nil => cases fails : reader.failure <;> simp_all [fillBuf, remaining]
  | cons chunk rest =>
    have some : chunk ≠ [] := reader.filled chunk (by simp [held])
    simp_all [fillBuf, remaining]

theorem fillBuf_of_sound {reader : Reader A E} (sound : reader.failure = none) :
    ∃ available, reader.fillBuf = .ok available := by
  cases held : reader.chunks <;> simp [fillBuf, held, sound]

theorem remaining_consume {reader : Reader A E} {available : List A} {count : Nat}
    (fill : reader.fillBuf = .ok available) (within : count ≤ available.length) :
    (reader.consume count).remaining = reader.remaining.drop count := by
  cases held : reader.chunks with
  | nil => simp [remaining, consume, held]
  | cons chunk rest =>
    obtain rfl : chunk = available := by simpa [fillBuf, held] using fill
    by_cases part : count < chunk.length
    · simp [remaining, consume, held, part, List.drop_append_of_le_length within]
    · have whole : count = chunk.length := by omega
      simp [remaining, consume, held, whole]

end Reader

end Readers

end Lines
