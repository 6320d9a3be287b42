import Mathlib.Logic.Function.Basic

set_option autoImplicit false

namespace Interleaving

-- A sequential program that asks its environment for one operation at a time.
inductive Prog (Op : Type) (Res : Op → Type) (A : Type) where
  | done (value : A)
  | call (op : Op) (next : Res op → Prog Op Res A)

namespace Prog

variable {Op : Type} {Res : Op → Type} {A B C E F : Type}

def bind (program : Prog Op Res A) (next : A → Prog Op Res B) : Prog Op Res B :=
  match program with
  | .done value => next value
  | .call op rest => .call op fun result => (rest result).bind next

instance : Monad (Prog Op Res) where
  pure := .done
  bind := Prog.bind

def perform (op : Op) : Prog Op Res (Res op) := .call op .done

def finished : Prog Op Res A → Bool
  | .done _ => true
  | .call _ _ => false

@[simp] theorem bind_done (value : A) (next : A → Prog Op Res B) :
    (Prog.done value : Prog Op Res A).bind next = next value := rfl

@[simp] theorem bind_call (op : Op) (rest : Res op → Prog Op Res A) (next : A → Prog Op Res B) :
    (Prog.call op rest).bind next = .call op fun result => (rest result).bind next := rfl

def Everywhere (holds : (op : Op) → (Res op → Prog Op Res A) → Prop) : Prog Op Res A → Prop
  | .done _ => True
  | .call op next => holds op next ∧ ∀ result, (next result).Everywhere holds

theorem Everywhere.bind {here : (op : Op) → (Res op → Prog Op Res A) → Prop}
    {there : (op : Op) → (Res op → Prog Op Res B) → Prop} {next : A → Prog Op Res B}
    (carried : ∀ op rest, here op rest → there op fun result => (rest result).bind next)
    {program : Prog Op Res A} (first : program.Everywhere here)
    (second : ∀ value, (next value).Everywhere there) : (program.bind next).Everywhere there := by
  induction program with
  | done value => exact second value
  | call op rest ih => exact ⟨carried op rest first.1, fun result => ih result (first.2 result)⟩

-- A run of the program alone: the operations it asked for with the answers it got, the value it ended
-- with and the state it left. An operation may take a state to several others.
inductive Performs {S : Type} (step : (op : Op) → S → Res op → S → Prop) :
    Prog Op Res A → S → List (Σ op, Res op) → A → S → Prop
  | done (value : A) (state : S) : Performs step (.done value) state [] value state
  | call {op : Op} {next : Res op → Prog Op Res A} {rest : List (Σ op, Res op)} {value : A}
      {before middle after : S} (answer : Res op) (taken : step op before answer middle)
      (later : Performs step (next answer) middle rest value after) :
      Performs step (.call op next) before (⟨op, answer⟩ :: rest) value after

section Performs

variable {S : Type} {step : (op : Op) → S → Res op → S → Prop} {before after : S}

theorem Performs.of_bind {program : Prog Op Res A} {next : A → Prog Op Res B}
    {trace : List (Σ op, Res op)} {value : B} (whole : (program.bind next).Performs step before trace value after) :
    ∃ result middle first second, program.Performs step before first result middle ∧
      (next result).Performs step middle second value after ∧ trace = first ++ second := by
  induction program generalizing before trace with
  | done result => exact ⟨result, before, [], trace, .done result before, whole, rfl⟩
  | call op rest ih =>
    cases whole with
    | call answer taken later =>
      obtain ⟨result, middle, first, second, early, late, rfl⟩ := ih answer later
      exact ⟨result, middle, ⟨op, answer⟩ :: first, second, .call answer taken early, late, rfl⟩

theorem Performs.then {program : Prog Op Res A} {next : A → Prog Op Res B} {first second : List (Σ op, Res op)}
    {result : A} {value : B} {middle : S} (early : program.Performs step before first result middle)
    (late : (next result).Performs step middle second value after) :
    (program.bind next).Performs step before (first ++ second) value after := by
  induction early with
  | done => exact late
  | call answer taken _ ih => exact .call answer taken (ih late)

theorem Performs.everywhere {holds : Op → Prop} {program : Prog Op Res A} {trace : List (Σ op, Res op)}
    {value : A} (only : program.Everywhere fun op _ => holds op)
    (performed : program.Performs step before trace value after) : ∀ exchange ∈ trace, holds exchange.1 := by
  induction performed with
  | done => simp
  | call answer _ _ ih =>
    rw [List.forall_mem_cons]
    exact ⟨only.1, ih (only.2 answer)⟩

theorem Performs.preserves {holds : Op → Prop} {view : S → B} {program : Prog Op Res A}
    {trace : List (Σ op, Res op)} {value : A}
    (same : ∀ op, holds op → ∀ before answer after, step op before answer after → view after = view before)
    (only : program.Everywhere fun op _ => holds op)
    (performed : program.Performs step before trace value after) : view after = view before := by
  induction performed with
  | done => rfl
  | call answer taken _ ih => exact (ih (only.2 answer)).trans (same _ only.1 _ _ _ taken)

def follow (answers : (op : Op) → S → Res op × S) : Prog Op Res A → S → List (Σ op, Res op) × A × S
  | .done value, state => ([], value, state)
  | .call op next, state =>
      let rest := (next (answers op state).1).follow answers (answers op state).2
      (⟨op, (answers op state).1⟩ :: rest.1, rest.2)

theorem performs_follow {answers : (op : Op) → S → Res op × S}
    (taken : ∀ op state, step op state (answers op state).1 (answers op state).2) (program : Prog Op Res A)
    (state : S) :
    program.Performs step state (program.follow answers state).1 (program.follow answers state).2.1
      (program.follow answers state).2.2 := by
  induction program generalizing state with
  | done value => exact .done value state
  | call op next ih => exact .call _ (taken op state) (ih _ _)

end Performs

end Prog

-- Programs that stop at the first error, as `?` does.
def Try (Op : Type) (Res : Op → Type) (E A : Type) : Type := Prog Op Res (Except E A)

namespace Try

variable {Op : Type} {Res : Op → Type} {A B E F : Type}

def bind (program : Try Op Res E A) (next : A → Try Op Res E B) : Try Op Res E B :=
  Prog.bind program fun
    | .ok value => next value
    | .error error => .done (.error error)

instance : Monad (Try Op Res E) where
  pure value := Prog.done (.ok value)
  bind := Try.bind

def fail (error : E) : Try Op Res E A := Prog.done (.error error)

def failIf (condition : Prop) [Decidable condition] (error : E) : Try Op Res E Unit :=
  if condition then fail error else pure ()

def lift (program : Prog Op Res A) : Try Op Res E A :=
  Prog.bind program fun value => .done (.ok value)

def ofExcept (result : Except E A) : Try Op Res E A := Prog.done result

-- `into` is the conversion that `?` applies to the error of an inner call.
def raising (into : E → F) (program : Prog Op Res (Except E A)) : Try Op Res F A :=
  Prog.bind program fun result => .done (result.mapError into)

def run (program : Try Op Res E A) : Prog Op Res (Except E A) := program

section Performs

variable {S : Type} {step : (op : Op) → S → Res op → S → Prop} {before after : S}

theorem performs_bind {program : Try Op Res E A} {next : A → Try Op Res E B}
    {trace : List (Σ op, Res op)} {result : Except E B}
    (whole : Prog.Performs step (Try.bind program next) before trace result after) :
    (∃ error, result = .error error ∧ Prog.Performs step program before trace (.error error) after) ∨
      ∃ value middle first second, Prog.Performs step program before first (.ok value) middle ∧
        Prog.Performs step (next value) middle second result after ∧ trace = first ++ second := by
  obtain ⟨outcome, middle, first, second, early, late, rfl⟩ := Prog.Performs.of_bind whole
  cases outcome with
  | error error =>
    cases late
    exact .inl ⟨error, rfl, by simpa using early⟩
  | ok value => exact .inr ⟨value, middle, first, second, early, late, rfl⟩

end Performs

end Try

-- Running one program alone, one choice an operation, until the choices are used up.
section Sequential

variable {Op : Type} {Res : Op → Type} {Choice S A : Type}
variable (exec : (op : Op) → Choice → S → Res op × S)

def runPrefix : List Choice → Prog Op Res A → S → Prog Op Res A × S
  | _, .done value, state => (.done value, state)
  | [], .call op next, state => (.call op next, state)
  | choice :: rest, .call op next, state =>
      let result := exec op choice state
      runPrefix rest (next result.1) result.2

-- The same to the end, with as many choices as it takes.
def runAll : (Nat → Choice) → Prog Op Res A → S → A × S
  | _, .done value, state => (value, state)
  | choices, .call op next, state =>
      let result := exec op (choices 0) state
      runAll (fun count => choices (count + 1)) (next result.1) result.2

theorem runAll_pick {Pick : Type} (pick : Pick → Choice) (choices : Nat → Pick) (program : Prog Op Res A)
    (state : S) :
    runAll (fun op choice => exec op (pick choice)) choices program state =
      runAll exec (fun count => pick (choices count)) program state := by
  induction program generalizing choices state with
  | done value => rfl
  | call op next ih => exact ih _ (fun count => choices (count + 1)) _

end Sequential

end Interleaving
