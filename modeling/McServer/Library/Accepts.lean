import Mathlib.Data.List.Basic

set_option autoImplicit false

namespace Outcome

variable {E A B : Type}

def Accepts (result : Except E A) (post : A → Prop) : Prop := ∃ value, result = .ok value ∧ post value

@[simp] theorem accepts_ok {value : A} {post : A → Prop} : Accepts (.ok value : Except E A) post ↔ post value := by
  simp [Accepts]

@[simp] theorem accepts_pure {value : A} {post : A → Prop} : Accepts (pure value : Except E A) post ↔ post value :=
  accepts_ok

@[simp] theorem accepts_error {error : E} {post : A → Prop} : Accepts (.error error : Except E A) post ↔ False := by
  simp [Accepts]

@[simp] theorem accepts_throw {error : E} {post : A → Prop} : Accepts (throw error : Except E A) post ↔ False :=
  accepts_error

@[simp] theorem accepts_bind {first : Except E A} {next : A → Except E B} {post : B → Prop} :
    Accepts (first >>= next) post ↔ Accepts first fun value => Accepts (next value) post := by
  cases first with
  | error error => simp [Accepts, bind, Except.bind]
  | ok value => simp [Accepts, bind, Except.bind]

theorem accepts_ite {condition : Prop} [Decidable condition] {first second : Except E A} {post : A → Prop} :
    Accepts (if condition then first else second) post ↔
      (condition → Accepts first post) ∧ (¬condition → Accepts second post) := by
  by_cases holds : condition <;> simp [holds]

theorem accepts_refuse {condition : Prop} [Decidable condition] {error : E} {second : Except E A}
    {post : A → Prop} :
    Accepts (if condition then .error error else second) post ↔ ¬condition ∧ Accepts second post := by
  by_cases holds : condition <;> simp [holds]

theorem accepts_throwIf {condition : Prop} [Decidable condition] {error : E} {next : B → Except E A}
    {second : Except E A} {post : A → Prop} :
    Accepts (if condition then throw error >>= next else second) post ↔ ¬condition ∧ Accepts second post := by
  by_cases holds : condition <;> simp [holds]

theorem accepts_forM {check : A → Except E Unit} {items : List A} {post : Unit → Prop} :
    Accepts (items.forM check) post ↔ (∀ item ∈ items, Accepts (check item) fun _ => True) ∧ post () := by
  induction items with
  | nil => simp [List.forM]
  | cons item rest ih =>
    rw [List.forM_eq_forM, List.forM_cons, accepts_bind, ← List.forM_eq_forM]
    simp only [ih, List.forall_mem_cons]
    simp [Accepts, and_assoc]

theorem accepts_iff {result : Except E Unit} : result = .ok () ↔ Accepts result fun _ => True :=
  ⟨fun succeeds => ⟨(), succeeds, trivial⟩, fun ⟨_, succeeds, _⟩ => succeeds⟩

theorem Accepts.unit {first : Except E Unit} {post : Unit → Prop} (accepted : Accepts first post) : post () :=
  accepted.elim fun _ succeeds => succeeds.2

end Outcome
