/-!
Cutting a list into pieces of one size; the last piece may be shorter. Main statements: the
pieces put together are the list, none is longer than the size, and the position of an item
tells in which piece it is.
-/

namespace KeyVault

variable {α : Type}

/-- The pieces of a list. There are none of size zero. -/
def chunks (size : Nat) (items : List α) : List (List α) :=
  if size = 0 ∨ items.isEmpty then []
  else items.take size :: chunks size (items.drop size)
termination_by items.length
decreasing_by
  have more : ¬ (size = 0 ∨ items.isEmpty = true) := by assumption
  rw [not_or, List.isEmpty_iff] at more
  have := List.length_pos_iff.mpr more.2
  rw [List.length_drop]
  omega

theorem flatten_chunks {size : Nat} (positive : 0 < size) (items : List α)
    : (chunks size items).flatten = items := by
  fun_induction chunks size items with
  | case1 items stop =>
    have empty := stop.resolve_left (Nat.ne_of_gt positive)
    exact (List.isEmpty_iff.mp empty).symm
  | case2 items more ih => rw [List.flatten_cons, ih, List.take_append_drop]

theorem length_le_of_mem_chunks {size : Nat} {items piece : List α}
    (h : piece ∈ chunks size items)
    : piece.length ≤ size := by
  fun_induction chunks size items with
  | case1 => nomatch h
  | case2 items more ih =>
    cases h with
    | head => exact List.length_take_le size items
    | tail _ later => exact ih later

/-- The items of a piece are those at the positions of which the piece has the number. -/
theorem mem_piece_iff {size : Nat} (positive : 0 < size) {items : List α} {number : Nat}
    {item : α}
    : (∃ piece, (chunks size items)[number]? = some piece ∧ item ∈ piece)
      ↔ ∃ position, items[position]? = some item ∧ position / size = number := by
  fun_induction chunks size items generalizing number with
  | case1 items stop =>
    have empty := List.isEmpty_iff.mp (stop.resolve_left (Nat.ne_of_gt positive))
    subst empty
    simp
  | case2 items more ih =>
    cases number with
    | zero =>
      simp only [List.getElem?_cons_zero, Option.some.injEq, exists_eq_left', List.mem_iff_getElem?,
        List.getElem?_take, Nat.div_eq_zero_iff_lt positive]
      constructor
      · rintro ⟨position, found⟩
        split at found
        · exact ⟨position, found, ‹_›⟩
        · nomatch found
      · rintro ⟨position, found, first⟩
        exact ⟨position, by rw [if_pos first, found]⟩
    | succ number =>
      rw [List.getElem?_cons_succ, ih]
      constructor
      · rintro ⟨position, found, rfl⟩
        rw [List.getElem?_drop] at found
        exact ⟨size + position, found, Nat.add_div_left position positive⟩
      · rintro ⟨position, found, later⟩
        have beyond : size ≤ position := by
          refine Nat.le_of_not_lt fun first => ?_
          rw [Nat.div_eq_of_lt first] at later
          nomatch later
        obtain ⟨position, rfl⟩ := Nat.exists_eq_add_of_le beyond
        rw [Nat.add_div_left position positive] at later
        exact ⟨position, by rw [List.getElem?_drop, found], Nat.succ.inj later⟩

end KeyVault
