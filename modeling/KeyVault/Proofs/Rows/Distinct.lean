import KeyVault.Rows
import Mathlib.Data.List.Nodup
/-!
Tables whose identifying columns are distinct, and maps. A row of such a table is found by
these columns, whatever order the rows have; a map that is put together from pairs has the
last value of each key.
-/

namespace KeyVault.Rows

variable {ρ κ ν : Type}

/-- A row is found by a search that no row with other identifying columns meets. -/
theorem find?_of_mem {column : ρ → κ} {rows : List ρ} (distinct : (rows.map column).Nodup)
    {row : ρ} (member : row ∈ rows) {found : ρ → Bool} (met : found row = true)
    (only : ∀ other, found other = true → column other = column row)
    : rows.find? found = some row := by
  cases search : rows.find? found with
  | none => exact absurd met (List.find?_eq_none.mp search row member)
  | some other =>
    have there : other ∈ rows := List.mem_of_find?_eq_some search
    have same : column other = column row := only other (List.find?_some search)
    exact congrArg some (List.inj_on_of_nodup_map distinct there member same)

theorem get?_append [DecidableEq κ] (key : κ) (first second : List (κ × ν))
    : get? key (first ++ second) = (get? key first).or (get? key second) := by
  simp only [get?, List.find?_append, Option.map_or]

/-- A map has the value that was put for its key, and for other keys what it had. -/
theorem get?_put [DecidableEq κ] (key : κ) (pair : κ × ν) (pairs : List (κ × ν))
    : get? key (put pair.1 pair.2 pairs) = (get? key [pair]).or (get? key pairs) := by
  by_cases same : key = pair.1
  · subst same
    rw [get?_put_self]
    simp [get?]
  · rw [get?_put_of_ne same]
    simp [get?, Ne.symm same]

/-- A map with its values changed has the changed value of each key. -/
theorem get?_map [DecidableEq κ] {β : Type} (key : κ) (change : κ → ν → β) (pairs : List (κ × ν))
    : get? key (pairs.map fun pair => (pair.1, change pair.1 pair.2))
      = (get? key pairs).map (change key) := by
  induction pairs with
  | nil => rfl
  | cons pair rest ih =>
    simp only [get?, List.map_cons, List.find?_cons] at ih ⊢
    by_cases same : pair.1 = key
    · simp [same]
    · simpa [same] using ih

/-- A map that has each key once has the value of every pair under its key. -/
theorem get?_of_mem [DecidableEq κ] {pairs : List (κ × ν)} (distinct : (pairs.map Prod.fst).Nodup)
    {pair : κ × ν} (member : pair ∈ pairs)
    : get? pair.1 pairs = some pair.2 := by
  have found : pairs.find? (fun other => other.1 = pair.1) = some pair :=
    find?_of_mem distinct member (decide_eq_true rfl) fun other met => of_decide_eq_true met
  rw [get?, found]
  rfl

/-- The keys after putting a value are those before it and the key of the value. -/
theorem mem_keys_put [DecidableEq κ] (key other : κ) (value : ν) (pairs : List (κ × ν))
    : other ∈ (put key value pairs).map Prod.fst ↔ other = key ∨ other ∈ pairs.map Prod.fst := by
  induction pairs with
  | nil => simp [put]
  | cons pair rest ih =>
    unfold put
    by_cases same : pair.1 = key
    · simp [same]
    · rw [if_neg same, List.map_cons, List.map_cons, List.mem_cons, List.mem_cons, ih]
      exact or_left_comm

/-- A map has each key once after a value was put. -/
theorem nodup_keys_put [DecidableEq κ] {pairs : List (κ × ν)}
    (distinct : (pairs.map Prod.fst).Nodup) (key : κ) (value : ν)
    : ((put key value pairs).map Prod.fst).Nodup := by
  induction pairs with
  | nil => simp [put]
  | cons pair rest ih =>
    obtain ⟨new, later⟩ := List.nodup_cons.mp distinct
    unfold put
    by_cases same : pair.1 = key
    · subst same
      rw [if_pos rfl]
      exact distinct
    · rw [if_neg same]
      refine List.nodup_cons.mpr ⟨?_, ih later⟩
      rw [mem_keys_put]
      exact not_or.mpr ⟨same, new⟩

/-- A map that pairs are put into one by one has the last value that is given for a key, or
else what it had before, by induction over the pairs.
-/
theorem get?_foldl_put [DecidableEq κ] (key : κ) (given start : List (κ × ν))
    : get? key (given.foldl (fun pairs pair => put pair.1 pair.2 pairs) start)
      = (get? key given.reverse).or (get? key start) := by
  induction given generalizing start with
  | nil => simp [get?]
  | cons pair rest ih =>
    rw [List.foldl_cons, ih, get?_put, List.reverse_cons, get?_append, Option.or_assoc]

/-- A map that pairs are put into one by one has each key once. -/
theorem nodup_keys_foldl_put [DecidableEq κ] (given : List (κ × ν)) {start : List (κ × ν)}
    (distinct : (start.map Prod.fst).Nodup)
    : ((given.foldl (fun pairs pair => put pair.1 pair.2 pairs) start).map Prod.fst).Nodup := by
  induction given generalizing start with
  | nil => exact distinct
  | cons pair rest ih => exact ih (nodup_keys_put distinct pair.1 pair.2)

end KeyVault.Rows
