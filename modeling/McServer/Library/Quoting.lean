import Mathlib.Data.List.Basic

set_option autoImplicit false

namespace Quoting

structure Rules (A : Type) where
  quote : A
  escape : A
  newline : A
  delimits : A → Bool
  escape_ne : escape ≠ quote
  newline_ne : newline ≠ quote
  quote_inside : delimits quote = false
  escape_inside : delimits escape = false

inductive Mode where
  | outside
  | escaped
  | quoted
  deriving DecidableEq

structure Piece (A : Type) where
  item : A
  kept : Bool
  deriving DecidableEq

structure Reading (A : Type) where
  words : List (List (Piece A))
  word : Option (List (Piece A))
  mode : Mode
  deriving DecidableEq

variable {A : Type}

def Reading.start : Reading A := ⟨[], none, .outside⟩

def Reading.add (reading : Reading A) (piece : Piece A) : Reading A :=
  { reading with word := some (reading.word.getD [] ++ [piece]) }

def Reading.finish (reading : Reading A) : Option (List (List (Piece A))) :=
  if reading.mode = .outside then some (reading.words ++ reading.word.toList) else none

def kept (items : List A) : List (Piece A) := items.map fun item => ⟨item, true⟩

namespace Rules

variable [DecidableEq A] (rules : Rules A)

def step (reading : Reading A) (item : A) : Reading A :=
  match reading.mode with
  | .outside =>
      if item = rules.quote then { reading with word := some (reading.word.getD []), mode := .quoted }
      else if item = rules.escape then { reading with mode := .escaped }
      else if rules.delimits item then
        { reading with words := reading.words ++ reading.word.toList, word := none }
      else reading.add ⟨item, false⟩
  | .escaped =>
      if item = rules.newline then { reading with mode := .outside }
      else { reading.add ⟨item, true⟩ with mode := .outside }
  | .quoted =>
      if item = rules.quote then { reading with mode := .outside } else reading.add ⟨item, true⟩

def read (reading : Reading A) (items : List A) : Reading A := items.foldl rules.step reading

def words (items : List A) : Option (List (List (Piece A))) := (rules.read .start items).finish

-- A quote cannot stand between quotes: the quotation is closed for it and opened again.
def inside (item : A) : List A :=
  if item = rules.quote then [rules.quote, rules.escape, rules.quote, rules.quote] else [item]

def enclose (items : List A) : List A := rules.quote :: items.flatMap rules.inside ++ [rules.quote]

theorem read_append (reading : Reading A) (first second : List A) :
    rules.read reading (first ++ second) = rules.read (rules.read reading first) second := by
  simp [read]

theorem read_inside (ended : List (List (Piece A))) (word : List (Piece A)) (item : A) :
    rules.read ⟨ended, some word, .quoted⟩ (rules.inside item) = ⟨ended, some (word ++ kept [item]), .quoted⟩ := by
  by_cases same : item = rules.quote
  · simp [inside, read, step, same, rules.escape_ne, rules.newline_ne.symm, Reading.add, kept]
  · simp [inside, read, step, same, Reading.add, kept]

theorem read_quoted (ended : List (List (Piece A))) (word : List (Piece A)) (items : List A) :
    rules.read ⟨ended, some word, .quoted⟩ (items.flatMap rules.inside) =
      ⟨ended, some (word ++ kept items), .quoted⟩ := by
  induction items generalizing word with
  | nil => simp [read, kept]
  | cons item rest ih =>
    rw [List.flatMap_cons, read_append, read_inside, ih]
    simp [kept]

theorem read_enclose (ended : List (List (Piece A))) (word : Option (List (Piece A))) (items rest : List A) :
    rules.read ⟨ended, word, .outside⟩ (rules.enclose items ++ rest) =
      rules.read ⟨ended, some (word.getD [] ++ kept items), .outside⟩ rest := by
  have opens : rules.read ⟨ended, word, .outside⟩ [rules.quote] = ⟨ended, some (word.getD []), .quoted⟩ := by
    simp [read, step]
  have closes : ∀ word, rules.read ⟨ended, some word, .quoted⟩ [rules.quote] = ⟨ended, some word, .outside⟩ := by
    simp [read, step]
  rw [enclose, ← List.singleton_append, List.append_assoc, List.append_assoc, read_append, opens, read_append,
    read_quoted, read_append, closes]

theorem finish_read (earlier : List (List (Piece A))) (reading : Reading A) (items : List A) :
    (rules.read { reading with words := earlier ++ reading.words } items).finish =
      (rules.read reading items).finish.map (earlier ++ ·) := by
  induction items generalizing reading with
  | nil =>
    by_cases outside : reading.mode = .outside <;> simp [read, Reading.finish, outside]
  | cons item rest ih =>
    have next : rules.step { reading with words := earlier ++ reading.words } item =
        { rules.step reading item with words := earlier ++ (rules.step reading item).words } := by
      simp only [step, Reading.add]
      split <;> split_ifs <;> simp
    simpa [read, next] using ih (rules.step reading item)

theorem words_enclosed {before after : List A} {ended : List (List (Piece A))}
    (begins : rules.read .start before = ⟨ended, none, .outside⟩)
    (ends : ∀ item ∈ after.head?, rules.delimits item = true) (items : List A) :
    rules.words (before ++ rules.enclose items ++ after) =
      (rules.words after).map fun rest => ended ++ kept items :: rest := by
  have frame := rules.finish_read (ended ++ [kept items]) .start after
  have whole : rules.words (before ++ rules.enclose items ++ after) =
      (rules.read ⟨ended ++ [kept items], none, .outside⟩ after).finish := by
    rw [words, List.append_assoc, read_append, begins, read_enclose]
    cases after with
    | nil => simp [read, Reading.finish]
    | cons item rest =>
      have stop : rules.delimits item = true := ends item rfl
      have bare : item ≠ rules.quote ∧ item ≠ rules.escape := by
        constructor
        · rintro rfl
          simp [rules.quote_inside] at stop
        · rintro rfl
          simp [rules.escape_inside] at stop
      simp [read, step, bare, stop]
  rw [whole]
  simpa [Reading.start, words] using frame

end Rules

end Quoting
