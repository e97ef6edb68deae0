import KeyVault.Rows
/-!
Tables and maps without some of their rows. What concerns the rows that stay is found and
written the same with the others removed; what concerns the rows that go is not seen there.
-/

namespace KeyVault.Rows

variable {ρ κ ν : Type} {gone meets found : ρ → Bool} {change : ρ → ρ} {row : ρ}

-----------------------------------------------------------------------------------------
-- Rows that stay
-----------------------------------------------------------------------------------------

theorem any_remove_of_apart (apart : ∀ row, found row = true → gone row = false) (rows : List ρ)
    : (remove gone rows).any found = rows.any found := by
  rw [remove, List.any_filter]
  congr 1
  funext row
  cases wanted : found row with
  | false => simp
  | true => simp [apart row wanted]

theorem countP_remove_of_apart (apart : ∀ row, found row = true → gone row = false)
    (rows : List ρ)
    : (remove gone rows).countP found = rows.countP found := by
  rw [List.countP_eq_length_filter, filter_remove_of_apart apart, ← List.countP_eq_length_filter]

theorem remove_append (stays : gone row = false) (rows : List ρ)
    : remove gone (rows ++ [row]) = remove gone rows ++ [row] := by
  simp [remove, stays]

theorem remove_amend (kept : ∀ row, meets row = true → gone (change row) = gone row) (rows : List ρ)
    : remove gone (amend meets change rows) = amend meets change (remove gone rows) := by
  unfold remove amend
  rw [List.filter_map]
  congr 2
  funext row
  simp only [Function.comp]
  by_cases met : meets row = true
  · rw [if_pos met, kept row met]
  · rw [if_neg met]

theorem remove_upsert (kept : ∀ row, meets row = true → gone (change row) = gone row)
    (apart : ∀ row, meets row = true → gone row = false) (stays : gone row = false)
    (rows : List ρ)
    : remove gone (upsert meets change row rows) = upsert meets change row (remove gone rows) := by
  unfold upsert
  rw [any_remove_of_apart apart]
  split
  · exact remove_amend kept rows
  · exact remove_append stays rows

theorem remove_comm (rows : List ρ)
    : remove gone (remove meets rows) = remove meets (remove gone rows) := by
  simp only [remove, List.filter_filter]
  congr 1
  funext row
  exact Bool.and_comm ..

-----------------------------------------------------------------------------------------
-- Rows that go
-----------------------------------------------------------------------------------------

theorem remove_append_of_met (goes : gone row = true) (rows : List ρ)
    : remove gone (rows ++ [row]) = remove gone rows := by
  simp [remove, goes]

/-- Where only rows are amended that go, nothing is amended of those that stay. -/
theorem remove_amend_of_met (met : ∀ row, meets row = true → gone row = true)
    (kept : ∀ row, meets row = true → gone (change row) = gone row) (rows : List ρ)
    : remove gone (amend meets change rows) = remove gone rows := by
  rw [remove_amend kept]
  apply amend_of_none
  intro row member
  have stays : gone row = false := by simpa using (List.mem_filter.mp member).2
  exact Bool.eq_false_iff.mpr fun here => absurd (met row here) (by simp [stays])

theorem remove_upsert_of_met (met : ∀ row, meets row = true → gone row = true)
    (kept : ∀ row, meets row = true → gone (change row) = gone row) (goes : gone row = true)
    (rows : List ρ)
    : remove gone (upsert meets change row rows) = remove gone rows := by
  unfold upsert
  split
  · exact remove_amend_of_met met kept rows
  · exact remove_append_of_met goes rows

theorem remove_remove_of_met (met : ∀ row, meets row = true → gone row = true) (rows : List ρ)
    : remove gone (remove meets rows) = remove gone rows := by
  rw [remove_comm]
  apply List.filter_eq_self.mpr
  intro row member
  have stays : gone row = false := by simpa using (List.mem_filter.mp member).2
  cases here : meets row with
  | false => rfl
  | true => exact absurd (met row here) (by simp [stays])

-----------------------------------------------------------------------------------------
-- Maps
-----------------------------------------------------------------------------------------

section Maps

variable [DecidableEq κ] {key : κ} {keep : κ → Bool}

theorem get?_filter (kept : keep key = true) (pairs : List (κ × ν))
    : get? key (pairs.filter fun pair => keep pair.1) = get? key pairs := by
  unfold get?
  rw [List.find?_filter]
  congr 2
  funext pair
  by_cases same : pair.1 = key
  · simp [same, kept]
  · simp [same]

/-- Putting a value under a key that is kept, by induction over the map. -/
theorem put_filter (kept : keep key = true) (value : ν) (pairs : List (κ × ν))
    : put key value (pairs.filter fun pair => keep pair.1)
      = (put key value pairs).filter fun pair => keep pair.1 := by
  induction pairs with
  | nil => simp [put, kept]
  | cons pair rest ih =>
    by_cases same : pair.1 = key
    · simp [put, same, kept]
    · cases here : keep pair.1 <;> simp [put, same, here, ih]

/-- Putting a value under a key that is not kept, by induction over the map. -/
theorem filter_put_of_unkept (unkept : keep key = false) (value : ν) (pairs : List (κ × ν))
    : (put key value pairs).filter (fun pair => keep pair.1)
      = pairs.filter fun pair => keep pair.1 := by
  induction pairs with
  | nil => simp [put, unkept]
  | cons pair rest ih =>
    by_cases same : pair.1 = key
    · simp [put, same, unkept]
    · simp [put, same, List.filter_cons, ih]

/-- Putting a changed value into a map with its values changed, by induction over the map. -/
theorem put_map {β : Type} (change : ν → β) (value : ν) (pairs : List (κ × ν))
    : put key (change value) (pairs.map fun pair => (pair.1, change pair.2))
      = (put key value pairs).map fun pair => (pair.1, change pair.2) := by
  induction pairs with
  | nil => rfl
  | cons pair rest ih =>
    by_cases same : pair.1 = key
    · simp [put, same]
    · simp [put, same, ih]

end Maps

end KeyVault.Rows
