import KeyVault.Rows
import Mathlib.Data.List.Forall2
/-!
Two tables whose rows are related one by one stay so under everything that is done to rows,
as long as the conditions do not tell related rows apart.
-/

namespace KeyVault.Rows

variable {ρ σ : Type} {R : ρ → σ → Prop} {rows : List ρ} {others : List σ}
variable {meets : ρ → Bool} {answers : σ → Bool} {change : ρ → ρ} {turn : σ → σ}

/-- Two conditions that do not tell related rows apart. -/
def Agree (R : ρ → σ → Prop) (meets : ρ → Bool) (answers : σ → Bool) : Prop :=
  ∀ row other, R row other → meets row = answers other

/-- Columns that are the same in related rows are the same, by induction over the rows. -/
theorem map_eq_map {κ : Type} {column : ρ → κ} {counterpart : σ → κ}
    (same : ∀ row other, R row other → column row = counterpart other)
    (related : List.Forall₂ R rows others)
    : rows.map column = others.map counterpart := by
  induction related with
  | nil => rfl
  | cons here _ ih => rw [List.map_cons, List.map_cons, same _ _ here, ih]

/-- A search finds related rows, or none in both tables, by induction over the rows. -/
theorem rel_find? (agree : Agree R meets answers) (related : List.Forall₂ R rows others)
    : Option.Rel R (rows.find? meets) (others.find? answers) := by
  induction related with
  | nil => exact .none
  | @cons row other rows others here _ ih =>
    rw [List.find?_cons, List.find?_cons, agree row other here]
    cases answers other with
    | true => exact .some here
    | false => exact ih

/-- As many rows meet the one condition as the other, by induction over the rows. -/
theorem rel_countP (agree : Agree R meets answers) (related : List.Forall₂ R rows others)
    : rows.countP meets = others.countP answers := by
  induction related with
  | nil => rfl
  | @cons row other rows others here _ ih =>
    rw [List.countP_cons, List.countP_cons, agree row other here, ih]

/-- Some row meets the one condition when some row meets the other, by induction over the rows. -/
theorem rel_any (agree : Agree R meets answers) (related : List.Forall₂ R rows others)
    : rows.any meets = others.any answers := by
  induction related with
  | nil => rfl
  | @cons row other rows others here _ ih =>
    rw [List.any_cons, List.any_cons, agree row other here, ih]

/-- Removing related rows leaves related rows. -/
theorem rel_remove (agree : Agree R meets answers) (related : List.Forall₂ R rows others)
    : List.Forall₂ R (remove meets rows) (remove answers others) := by
  refine List.rel_filter ?_ related
  intro row other here
  simp only [agree row other here]

/-- Related rows are related after they were amended in the same way. -/
theorem rel_amend (agree : Agree R meets answers)
    (amended : ∀ row other, R row other → R (change row) (turn other))
    (related : List.Forall₂ R rows others)
    : List.Forall₂ R (amend meets change rows) (amend answers turn others) := by
  refine List.rel_map ?_ related
  intro row other here
  simp only [agree row other here]
  split
  · exact amended row other here
  · exact here

/-- A table takes a row where the other takes one related to it. -/
theorem rel_upsert (agree : Agree R meets answers)
    (amended : ∀ row other, R row other → R (change row) (turn other)) {row : ρ} {other : σ}
    (new : R row other) (related : List.Forall₂ R rows others)
    : List.Forall₂ R (upsert meets change row rows) (upsert answers turn other others) := by
  unfold upsert
  rw [rel_any agree related]
  split
  · exact rel_amend agree amended related
  · exact List.rel_append related (.cons new .nil)

/-- Sorting by orders that do not tell related rows apart keeps rows related: both tables
are sorted as the list of their pairs is.
-/
theorem rel_mergeSort {before : ρ → ρ → Bool} {precedes : σ → σ → Bool}
    (agree
      : ∀ row other row' other',
          R row other → R row' other' → before row row' = precedes other other')
    (related : List.Forall₂ R rows others)
    : List.Forall₂ R (rows.mergeSort before) (others.mergeSort precedes) := by
  obtain ⟨length, paired⟩ := List.forall₂_iff_zip.mp related
  let pairs := rows.zip others
  let sorted := pairs.mergeSort fun pair later => before pair.1 later.1
  have first : sorted.map Prod.fst = rows.mergeSort before := by
    rw [List.map_mergeSort, List.map_fst_zip (Nat.le_of_eq length)]
    intro pair _ later _
    rfl
  have second : sorted.map Prod.snd = others.mergeSort precedes := by
    rw [List.map_mergeSort, List.map_snd_zip (Nat.le_of_eq length.symm)]
    intro pair here later there
    exact agree _ _ _ _ (paired here) (paired there)
  rw [← first, ← second, List.forall₂_map_left_iff, List.forall₂_map_right_iff, List.forall₂_same]
  intro pair member
  exact paired (List.mem_mergeSort.mp member)

end KeyVault.Rows
