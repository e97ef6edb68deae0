/-!
Tables and maps as lists. Rows are found, amended and removed by a condition; a map keeps
one value for each key, in the order in which the keys first came.
-/

namespace KeyVault.Rows

variable {ρ κ ν : Type}

def amend (meets : ρ → Bool) (change : ρ → ρ) (rows : List ρ) : List ρ :=
  rows.map fun row => if meets row then change row else row

def remove (meets : ρ → Bool) (rows : List ρ) : List ρ :=
  rows.filter fun row => !meets row

/-- Amends the rows that meet a condition, or adds a row where none does. -/
def upsert (meets : ρ → Bool) (change : ρ → ρ) (row : ρ) (rows : List ρ) : List ρ :=
  if rows.any meets then amend meets change rows else rows ++ [row]

/-- Puts a value under a key, in place of the one that is there. -/
def put [DecidableEq κ] (key : κ) (value : ν) : List (κ × ν) → List (κ × ν)
  | [] => [(key, value)]
  | (other, old) :: rest => if other = key then (key, value) :: rest else (other, old) :: put key value rest

def get? [DecidableEq κ] (key : κ) (pairs : List (κ × ν)) : Option ν :=
  (pairs.find? fun pair => pair.1 = key).map Prod.snd

/-- A search that amending a row does not disturb finds the same row, amended if it is to be. -/
theorem find?_amend_of_met {meets found : ρ → Bool} {change : ρ → ρ}
    (kept : ∀ row, meets row = true → found (change row) = found row) (rows : List ρ)
    : (amend meets change rows).find? found
      = (rows.find? found).map fun row => if meets row then change row else row := by
  induction rows with
  | nil => rfl
  | cons row rows ih =>
    have same : found (if meets row then change row else row) = found row := by
      cases met : meets row with
      | true => exact kept row met
      | false => rfl
    simp only [amend, List.map_cons, List.find?_cons, same] at ih ⊢
    cases found row <;> simp [ih]

/-- A search that no amending disturbs finds the same row, amended if it is to be. -/
theorem find?_amend {meets found : ρ → Bool} {change : ρ → ρ}
    (kept : ∀ row, found (change row) = found row) (rows : List ρ)
    : (amend meets change rows).find? found
      = (rows.find? found).map fun row => if meets row then change row else row :=
  find?_amend_of_met (fun row _ => kept row) rows

/-- Where a row is met, the first such row is found amended. -/
theorem find?_upsert_of_some {meets : ρ → Bool} {change : ρ → ρ}
    (kept : ∀ row, meets (change row) = meets row) {old : ρ} {rows : List ρ}
    (there : rows.find? meets = some old) (row : ρ)
    : (upsert meets change row rows).find? meets = some (change old) := by
  have met : meets old = true := List.find?_some there
  have any : rows.any meets = true := List.any_eq_true.mpr ⟨old, List.mem_of_find?_eq_some there, met⟩
  rw [upsert, if_pos any, find?_amend kept, there]
  simp [met]

/-- Where no row is met, the row that is added is found. -/
theorem find?_upsert_of_none {meets : ρ → Bool} {change : ρ → ρ} {row : ρ} {rows : List ρ}
    (absent : rows.find? meets = none) (met : meets row = true)
    : (upsert meets change row rows).find? meets = some row := by
  have unmet : rows.any meets = false := by simpa using absent
  rw [upsert, unmet, if_neg Bool.false_ne_true, List.find?_append, absent, List.find?_singleton,
    if_pos met]
  rfl

/-- A row that takes the place of the one that is met, or else is added, is found. -/
theorem find?_upsert_self {meets : ρ → Bool} {row : ρ} (met : meets row = true) (rows : List ρ)
    : (upsert meets (fun _ => row) row rows).find? meets = some row := by
  unfold upsert
  cases there : rows.find? meets with
  | none =>
    have unmet : rows.any meets = false := by simpa using there
    simp [unmet, List.find?_append, there, met]
  | some old =>
    have replaced : meets old = true := List.find?_some there
    have any : rows.any meets = true :=
      List.any_eq_true.mpr ⟨old, List.mem_of_find?_eq_some there, replaced⟩
    rw [if_pos any, find?_amend_of_met (fun old here => met.trans here.symm), there,
      Option.map_some, if_pos replaced]

/-- A search for other rows than the one that takes a place finds what it found. -/
theorem find?_upsert_self_of_apart {meets found : ρ → Bool} {row : ρ}
    (apart : ∀ row, found row = true → meets row = false) (other : found row = false)
    (rows : List ρ)
    : (upsert meets (fun _ => row) row rows).find? found = rows.find? found := by
  have unmet : ∀ old, meets old = true → found old = false := by
    intro old met
    cases wanted : found old with
    | false => rfl
    | true => exact absurd met (by simp [apart old wanted])
  unfold upsert
  split
  · rw [find?_amend_of_met (fun old met => other.trans (unmet old met).symm)]
    cases there : rows.find? found with
    | none => rfl
    | some old => simp [apart old (List.find?_some there)]
  · simp [List.find?_append, other]

/-- Where rows are met alike, there is such a row after a row took a place exactly when it is
one or there was one before.
-/
theorem any_upsert_self {meets found : ρ → Bool} {row : ρ}
    (alike : ∀ old, meets old = true → found old = found row) (rows : List ρ)
    : (upsert meets (fun _ => row) row rows).any found = (found row || rows.any found) := by
  unfold upsert
  cases any : rows.any meets with
  | true =>
    obtain ⟨old, member, met⟩ := List.any_eq_true.mp any
    have same : ∀ other, found (if meets other then row else other) = found other := by
      intro other
      cases here : meets other with
      | true => exact (alike other here).symm
      | false => rfl
    simp only [if_true, amend, List.any_map, Function.comp_def, same]
    cases wanted : found row with
    | false => rfl
    | true => exact List.any_eq_true.mpr ⟨old, member, (alike old met).trans wanted⟩
  | false =>
    rw [if_neg Bool.false_ne_true, List.any_append, Bool.or_comm]
    simp

/-- A search for rows that are not amended finds what it found. -/
theorem find?_amend_of_apart {meets found : ρ → Bool} {change : ρ → ρ}
    (kept : ∀ row, found (change row) = found row)
    (apart : ∀ row, found row = true → meets row = false) (rows : List ρ)
    : (amend meets change rows).find? found = rows.find? found := by
  rw [find?_amend kept]
  cases there : rows.find? found with
  | none => rfl
  | some row => simp [apart row (List.find?_some there)]

/-- A search for other rows than the one that is put in finds what it found. -/
theorem find?_upsert_of_apart {meets found : ρ → Bool} {change : ρ → ρ} {row : ρ}
    (kept : ∀ row, found (change row) = found row)
    (apart : ∀ row, found row = true → meets row = false)
    (other : found row = false) (rows : List ρ)
    : (upsert meets change row rows).find? found = rows.find? found := by
  unfold upsert
  split
  · exact find?_amend_of_apart kept apart rows
  · simp [List.find?_append, other]

/-- A search for rows that are not removed finds what it found. -/
theorem find?_remove_of_apart {meets found : ρ → Bool}
    (apart : ∀ row, found row = true → meets row = false) (rows : List ρ)
    : (remove meets rows).find? found = rows.find? found := by
  rw [remove, List.find?_filter]
  congr 1
  funext row
  cases wanted : found row with
  | false => simp
  | true => simp [apart row wanted]

/-- A search for rows that are removed finds none. -/
theorem find?_remove_of_met {meets found : ρ → Bool}
    (met : ∀ row, found row = true → meets row = true) (rows : List ρ)
    : (remove meets rows).find? found = none := by
  apply List.find?_eq_none.mpr
  intro row member wanted
  have kept := (List.mem_filter.mp member).2
  simp [met row wanted] at kept

/-- No row that meets the condition of a removal is left. -/
theorem any_remove_self (meets : ρ → Bool) (rows : List ρ) : (remove meets rows).any meets = false := by
  apply List.any_eq_false.mpr
  intro row member
  simpa using (List.mem_filter.mp member).2

/-- A column that amending does not touch is the same afterwards. -/
theorem map_amend {column : ρ → κ} {meets : ρ → Bool} {change : ρ → ρ}
    (kept : ∀ row, meets row = true → column (change row) = column row) (rows : List ρ)
    : (amend meets change rows).map column = rows.map column := by
  unfold amend
  rw [List.map_map]
  apply List.map_congr_left
  intro row _
  simp only [Function.comp]
  cases met : meets row with
  | true => exact kept row met
  | false => rfl

/-- A column without repetitions has none after a row with a new value was added. -/
theorem nodup_map_concat {column : ρ → κ} {rows : List ρ} {row : ρ}
    (distinct : (rows.map column).Nodup) (new : ∀ old ∈ rows, column old ≠ column row)
    : ((rows ++ [row]).map column).Nodup := by
  rw [List.map_append, List.nodup_append]
  refine ⟨distinct, by simp, ?_⟩
  intro value there other added
  obtain ⟨old, member, rfl⟩ := List.mem_map.mp there
  cases List.mem_singleton.mp added
  exact new old member

/-- A column without repetitions has none after a row took the place of the one with its
value, or was added.
-/
theorem nodup_map_upsert {column : ρ → κ} {meets : ρ → Bool} {change : ρ → ρ} {row : ρ}
    {rows : List ρ}
    (kept : ∀ old, meets old = true → column (change old) = column old)
    (met : ∀ old, column old = column row → meets old = true)
    (distinct : (rows.map column).Nodup)
    : ((upsert meets change row rows).map column).Nodup := by
  unfold upsert
  by_cases any : rows.any meets = true
  · rw [if_pos any, map_amend kept]
    exact distinct
  · rw [if_neg any]
    refine nodup_map_concat distinct ?_
    intro old member same
    exact any (List.any_eq_true.mpr ⟨old, member, met old same⟩)

/-- A column without repetitions has none after rows were removed. -/
theorem nodup_map_remove {column : ρ → κ} {rows : List ρ} (meets : ρ → Bool)
    (distinct : (rows.map column).Nodup)
    : ((remove meets rows).map column).Nodup :=
  distinct.sublist (List.filter_sublist.map column)

/-- A choice of rows that amending does not disturb chooses the same rows, amended if they
are to be.
-/
theorem filter_amend {meets found : ρ → Bool} {change : ρ → ρ}
    (kept : ∀ row, found (change row) = found row) (rows : List ρ)
    : (amend meets change rows).filter found = amend meets change (rows.filter found) := by
  unfold amend
  rw [List.filter_map]
  congr 2
  funext row
  simp only [Function.comp]
  split
  · exact kept row
  · rfl

/-- Where no row is met, nothing is amended. -/
theorem amend_of_none {meets : ρ → Bool} {change : ρ → ρ} {rows : List ρ}
    (unmet : ∀ row ∈ rows, meets row = false)
    : amend meets change rows = rows := by
  have same : ∀ row ∈ rows, (if meets row then change row else row) = id row := by
    intro row member
    simp [unmet row member]
  exact (List.map_congr_left same).trans (List.map_id rows)

/-- A choice of rows that are not removed chooses what it chose. -/
theorem filter_remove_of_apart {meets found : ρ → Bool}
    (apart : ∀ row, found row = true → meets row = false) (rows : List ρ)
    : (remove meets rows).filter found = rows.filter found := by
  rw [remove, List.filter_filter]
  apply List.filter_congr
  intro row _
  cases wanted : found row with
  | false => rfl
  | true => simp [apart row wanted]

theorem get?_put_self [DecidableEq κ] (key : κ) (value : ν) (pairs : List (κ × ν))
    : get? key (put key value pairs) = some value := by
  induction pairs with
  | nil => simp [put, get?]
  | cons pair rest ih =>
    by_cases same : pair.1 = key
    · simp [put, get?, same]
    · simpa [put, get?, same] using ih

theorem get?_put_of_ne [DecidableEq κ] {key other : κ} (different : other ≠ key) (value : ν)
    (pairs : List (κ × ν))
    : get? other (put key value pairs) = get? other pairs := by
  induction pairs with
  | nil => simp [put, get?, Ne.symm different]
  | cons pair rest ih =>
    by_cases same : pair.1 = key
    · simp [put, get?, same, Ne.symm different]
    · by_cases found : pair.1 = other
      · subst found
        simp [put, get?, different]
      · simpa [put, get?, same, found] using ih

/-- Putting the value that is there changes nothing. -/
theorem put_of_get? [DecidableEq κ] {key : κ} {value : ν} {pairs : List (κ × ν)}
    (there : get? key pairs = some value)
    : put key value pairs = pairs := by
  induction pairs with
  | nil => simp [get?] at there
  | cons pair rest ih =>
    obtain ⟨other, old⟩ := pair
    by_cases same : other = key
    · subst same
      simp_all [put, get?]
    · have later : get? key rest = some value := by simpa [get?, same] using there
      simp [put, same, ih later]

end KeyVault.Rows
