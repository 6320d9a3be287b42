import Mathlib.Data.List.Nodup
import Mathlib.Data.List.Dedup

set_option autoImplicit false

namespace Table

variable {Row Key : Type}

def update (selects : Row → Bool) (set : Row → Row) (rows : List Row) : List Row :=
  rows.map fun row => if selects row then set row else row

def affected (selects : Row → Bool) (rows : List Row) : Nat := rows.countP selects

def Unique (key : Row → Key) (rows : List Row) : Prop := (rows.map key).Nodup

variable {selects : Row → Bool} {set : Row → Row} {key : Row → Key} {rows : List Row}
variable {related : Row → Row → Prop}

theorem mem_update {row : Row} :
    row ∈ update selects set rows ↔
      ∃ old ∈ rows, (selects old = true ∧ row = set old) ∨ (selects old = false ∧ row = old) := by
  simp only [update, List.mem_map]
  constructor
  · rintro ⟨old, member, rfl⟩
    cases chosen : selects old <;> exact ⟨old, member, by simp [chosen]⟩
  · rintro ⟨old, member, ⟨chosen, rfl⟩ | ⟨spared, rfl⟩⟩
    · exact ⟨old, member, by simp [chosen]⟩
    · exact ⟨row, member, by simp [spared]⟩

theorem update_mem {row : Row}
    (member : row ∈ rows) : (if selects row then set row else row) ∈ update selects set rows :=
  List.mem_map_of_mem member

theorem forall_update {holds : Row → Prop} (before : ∀ row ∈ rows, holds row)
    (changed : ∀ row ∈ rows, selects row = true → holds row → holds (set row)) :
    ∀ row ∈ update selects set rows, holds row := by
  intro row member
  obtain ⟨old, present, ⟨chosen, rfl⟩ | ⟨_, rfl⟩⟩ := mem_update.mp member
  · exact changed old present chosen (before old present)
  · exact before row present

structure Moved (related : Row → Row → Prop) (before after : List Row) : Prop where
  origin : ∀ new ∈ after, ∃ old ∈ before, related old new
  image : ∀ old ∈ before, ∃ new ∈ after, related old new

theorem update_moved (same : ∀ row, related row row)
    (changed : ∀ row ∈ rows, selects row = true → related row (set row)) :
    Moved related rows (update selects set rows) := by
  have pointwise : ∀ row ∈ rows, related row (if selects row then set row else row) := by
    intro row member
    by_cases chosen : selects row = true
    · rw [if_pos chosen]
      exact changed row member chosen
    · rw [if_neg chosen]
      exact same row
  constructor
  · intro new member
    obtain ⟨old, present, rfl⟩ := List.mem_map.mp member
    exact ⟨old, present, pointwise old present⟩
  · intro old member
    exact ⟨_, update_mem member, pointwise old member⟩

-- Every row that was there has a counterpart, and every row without one was created.
structure Grown (related : Row → Row → Prop) (created : Row → Prop) (before after : List Row) :
    Prop where
  image : ∀ old ∈ before, ∃ new ∈ after, related old new
  origin : ∀ new ∈ after, (∃ old ∈ before, related old new) ∨ created new

theorem Moved.grown {created : Row → Prop} {before after : List Row}
    (moved : Moved related before after) : Grown related created before after :=
  ⟨moved.image, fun new member => .inl (moved.origin new member)⟩

theorem Grown.refl {created : Row → Prop}
    (same : ∀ row, related row row) : Grown related created rows rows :=
  ⟨fun row member => ⟨row, member, same row⟩, fun row member => .inl ⟨row, member, same row⟩⟩

theorem Grown.insert {created : Row → Prop} {row : Row}
    (same : ∀ row, related row row) (fresh : created row) :
    Grown related created rows (rows ++ [row]) := by
  refine ⟨fun old member => ⟨old, List.mem_append_left _ member, same old⟩, fun new member => ?_⟩
  rcases List.mem_append.mp member with present | single
  · exact .inl ⟨new, present, same new⟩
  · rw [List.mem_singleton.mp single]
    exact .inr fresh

theorem update_of_unaffected (none : affected selects rows = 0) : update selects set rows = rows := by
  have spared : ∀ row ∈ rows, selects row = false := by
    simpa [affected, List.countP_eq_zero] using none
  calc update selects set rows = rows.map id := List.map_congr_left fun row member => by
        simp [spared row member]
    _ = rows := List.map_id rows

theorem map_update {Column : Type} {column : Row → Column}
    (same : ∀ row ∈ rows, selects row = true → column (set row) = column row) :
    (update selects set rows).map column = rows.map column := by
  simp only [update, List.map_map]
  refine List.map_congr_left fun row member => ?_
  by_cases chosen : selects row = true
  · simp [chosen, same row member chosen]
  · simp [chosen]

theorem Unique.update (unique : Unique key rows)
    (same : ∀ row ∈ rows, selects row = true → key (set row) = key row) :
    Unique key (update selects set rows) := by
  simpa only [Unique, map_update same] using unique

theorem Unique.insert {row : Row} (unique : Unique key rows)
    (fresh : ∀ other ∈ rows, key other ≠ key row) : Unique key (rows ++ [row]) := by
  simp only [Unique, List.map_append, List.map_cons, List.map_nil]
  refine List.nodup_append.mpr ⟨unique, List.nodup_singleton _, ?_⟩
  intro value member other single
  obtain ⟨old, present, rfl⟩ := List.mem_map.mp member
  rw [List.mem_singleton.mp single]
  exact fresh old present

theorem Unique.eq_of_key (unique : Unique key rows)
    {first second : Row} (left : first ∈ rows) (right : second ∈ rows)
    (same : key first = key second) : first = second :=
  List.inj_on_of_nodup_map unique left right same

theorem Unique.affected_le_one (unique : Unique key rows)
    {value : Key} (keyed : ∀ row, selects row = true → key row = value) :
    affected selects rows ≤ 1 := by
  induction rows with
  | nil => simp [affected]
  | cons row rest ih =>
    simp only [Unique, List.map_cons, List.nodup_cons] at unique
    by_cases chosen : selects row = true
    · -- The key of the chosen row does not occur again, so nothing else is chosen.
      have rest_none : affected selects rest = 0 := by
        refine List.countP_eq_zero.mpr fun other member picked => unique.1 ?_
        exact List.mem_map.mpr ⟨other, member, (keyed other picked).trans (keyed row chosen).symm⟩
      simp only [affected] at rest_none
      simp [affected, rest_none, chosen]
    · simpa [affected, List.countP_cons, chosen] using ih unique.2

theorem affected_pos :
    0 < affected selects rows ↔ ∃ row ∈ rows, selects row = true := by
  simp [affected, List.countP_pos_iff]

theorem Unique.affected_eq_one (unique : Unique key rows)
    {value : Key} (keyed : ∀ row, selects row = true → key row = value) :
    affected selects rows = 1 ↔ ∃ row ∈ rows, selects row = true := by
  have bound := unique.affected_le_one keyed
  rw [← affected_pos]
  omega

theorem Unique.find_eq [DecidableEq Key] (unique : Unique key rows) {row : Row}
    (member : row ∈ rows) : rows.find? (fun other => key other = key row) = some row := by
  cases found : rows.find? (fun other => key other = key row) with
  | none => simpa using List.find?_eq_none.mp found row member
  | some other =>
    have same : key other = key row := by simpa using List.find?_some found
    rw [unique.eq_of_key (List.mem_of_find?_eq_some found) member same]

end Table
