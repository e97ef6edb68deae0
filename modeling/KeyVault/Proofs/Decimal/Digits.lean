import KeyVault.Decimal.Shortest
import Mathlib.Algebra.Order.Ring.Nat
import Mathlib.Data.String.Basic
/-!
Numbers written with a fixed number of digits are in the order of their texts. So are decimal
fractions with any numbers of places, when what follows their digits is a mark that stands
before every digit. A number that starts a text can be read off it.
-/

namespace KeyVault.Decimal

/-- The last digits of a number, so many of them. -/
def lastDigits : Nat → Nat → List Char
  | 0, _ => []
  | width + 1, n => lastDigits width (n / 10) ++ [Nat.digitChar (n % 10)]

theorem length_lastDigits (width n : Nat) : (lastDigits width n).length = width := by
  induction width generalizing n with
  | zero => rfl
  | succ width ih => simp [lastDigits, ih]

theorem lastDigits_zero (width : Nat) : lastDigits width 0 = List.replicate width '0' := by
  induction width with
  | zero => rfl
  | succ width ih =>
    rw [lastDigits, ih, List.replicate_succ']
    rfl

/-- A number that fits is padded to its last digits, by induction on how many. -/
theorem padded_eq_lastDigits {width n : Nat} (positive : 0 < width) (fits : n < 10 ^ width)
    : padded width n = lastDigits width n := by
  induction width generalizing n with
  | zero => cases positive
  | succ width ih =>
    rw [padded, lastDigits, Nat.toDigits_eq_if (by decide)]
    by_cases single : n < 10
    · rw [if_pos single, Nat.div_eq_of_lt single, Nat.mod_eq_of_lt single, lastDigits_zero]
      simp [List.leftpad]
    · rw [if_neg single]
      rw [Nat.pow_succ] at fits
      have wide : 0 < width := by
        rcases Nat.eq_zero_or_pos width with rfl | wide
        · omega
        · exact wide
      rw [← ih wide (by omega)]
      simp [padded, List.leftpad]

/-- The digits of a number are those of what is in front of its last ones, and the last ones. -/
theorem lastDigits_add (width more n : Nat)
    : lastDigits (width + more) n = lastDigits width (n / 10 ^ more) ++ lastDigits more n := by
  induction more generalizing n with
  | zero => simp [lastDigits]
  | succ more ih =>
    rw [← Nat.add_assoc, lastDigits, ih, lastDigits, List.append_assoc, Nat.div_div_eq_div_mul,
      Nat.pow_succ']

-----------------------------------------------------------------------------------------
-- The order of texts
-----------------------------------------------------------------------------------------

/-- Texts of one length decide the order of longer ones that start with them. -/
theorem append_lt_append {first later : List Char} (same : first.length = later.length)
    (less : first < later) (rest more : List Char)
    : first ++ rest < later ++ more := by
  induction first generalizing later with
  | nil =>
    cases List.length_eq_zero_iff.mp same.symm
    exact absurd less (List.lt_irrefl [])
  | cons c first ih =>
    obtain ⟨d, later, rfl⟩ := List.exists_cons_of_length_eq_add_one same.symm
    rw [List.cons_append, List.cons_append, List.cons_lt_cons_iff]
    rcases List.cons_lt_cons_iff.mp less with before | ⟨here, less⟩
    · exact .inl before
    · exact .inr ⟨here, ih (Nat.succ.inj same) less⟩

theorem digitChar_lt_digitChar {m n : Nat} (less : m < n) (digit : n < 10)
    : Nat.digitChar m < Nat.digitChar n := by
  rw [Char.lt_def, UInt32.lt_iff_toNat_lt]
  show (Nat.digitChar m).toNat < (Nat.digitChar n).toNat
  rw [Nat.toNat_digitChar_of_lt_ten (Nat.lt_trans less digit), Nat.toNat_digitChar_of_lt_ten digit]
  omega

/-- Digits of one width are in the order of the numbers, by induction on the width. -/
theorem lastDigits_lt_lastDigits {width m n : Nat} (fits : n < 10 ^ width) (less : m < n)
    : lastDigits width m < lastDigits width n := by
  induction width generalizing m n with
  | zero =>
    rw [Nat.pow_zero] at fits
    omega
  | succ width ih =>
    rw [Nat.pow_succ] at fits
    unfold lastDigits
    rcases Nat.lt_or_eq_of_le (Nat.div_le_div_right (c := 10) (Nat.le_of_lt less)) with front | same
    · refine append_lt_append ?_ (ih (by omega) front) _ _
      rw [length_lastDigits, length_lastDigits]
    · rw [same]
      apply List.append_left_lt
      exact List.cons_lt_cons_iff.mpr (.inl (digitChar_lt_digitChar (by omega) (by omega)))

/-- Fields of one width are in the order of their numbers, or else of what follows them. -/
theorem lastDigits_append_lt {width m n : Nat} {rest more : List Char} (fits : n < 10 ^ width)
    (order : m < n ∨ m = n ∧ rest < more)
    : lastDigits width m ++ rest < lastDigits width n ++ more := by
  rcases order with less | ⟨rfl, less⟩
  · refine append_lt_append ?_ (lastDigits_lt_lastDigits fits less) rest more
    rw [length_lastDigits, length_lastDigits]
  · exact List.append_left_lt less

/-- The mark behind a number stands before every digit. -/
theorem plus_lt_lastDigits {width : Nat} (positive : 0 < width) (n : Nat) (zone rest : List Char)
    : '+' :: zone < lastDigits width n ++ rest := by
  obtain ⟨width, rfl⟩ := Nat.exists_eq_succ_of_ne_zero (Nat.ne_of_gt positive)
  have front : lastDigits (width + 1) n
      = Nat.digitChar (n / 10 ^ width % 10) :: lastDigits width n := by
    rw [Nat.add_comm, lastDigits_add]
    rfl
  rw [Nat.succ_eq_add_one, front, List.cons_append, List.cons_lt_cons_iff]
  left
  rw [Char.lt_def, UInt32.lt_iff_toNat_lt]
  show 43 < (Nat.digitChar _).toNat
  rw [Nat.toNat_digitChar_of_lt_ten (Nat.mod_lt _ (by decide))]
  omega

/-- Decimal fractions with a mark behind their places are in the order of their values. The
shorter one is compared with as many places of the longer one; where these agree, the mark of
the shorter one meets a further digit.
-/
theorem places_lt_places {width more m n : Nat} (fits : n < 10 ^ more)
    (below : m * 10 ^ more < n * 10 ^ width) (zone : List Char)
    : lastDigits width m ++ '+' :: zone < lastDigits more n ++ '+' :: zone := by
  rcases Nat.le_total width more with shorter | longer
  · obtain ⟨extra, rfl⟩ := Nat.exists_eq_add_of_le shorter
    rw [lastDigits_add, List.append_assoc]
    rw [Nat.pow_add] at fits below
    have leading : m * 10 ^ extra < n := by
      apply Nat.lt_of_mul_lt_mul_right (a := 10 ^ width)
      rw [Nat.mul_assoc, Nat.mul_comm (10 ^ extra)]
      exact below
    have fitting : n / 10 ^ extra < 10 ^ width :=
      (Nat.div_lt_iff_lt_mul (Nat.pow_pos (by decide))).mpr fits
    apply lastDigits_append_lt fitting
    rcases Nat.lt_or_eq_of_le
        ((Nat.le_div_iff_mul_le (Nat.pow_pos (by decide))).mpr (Nat.le_of_lt leading)) with
      less | same
    · exact .inl less
    · refine .inr ⟨same, plus_lt_lastDigits ?_ n zone _⟩
      rcases Nat.eq_zero_or_pos extra with rfl | positive
      · rw [Nat.pow_zero, Nat.div_one] at same
        rw [Nat.pow_zero, Nat.mul_one] at leading
        exact absurd same (Nat.ne_of_lt leading)
      · exact positive
  · obtain ⟨extra, rfl⟩ := Nat.exists_eq_add_of_le longer
    rw [lastDigits_add, List.append_assoc]
    rw [Nat.pow_add] at below
    have leading : m < n * 10 ^ extra := by
      apply Nat.lt_of_mul_lt_mul_right (a := 10 ^ more)
      rw [Nat.mul_assoc, Nat.mul_comm (10 ^ extra)]
      exact below
    have less : m / 10 ^ extra < n :=
      (Nat.div_lt_iff_lt_mul (Nat.pow_pos (by decide))).mpr leading
    exact lastDigits_append_lt fits (.inl less)

-----------------------------------------------------------------------------------------
-- Numbers that are read off their texts
-----------------------------------------------------------------------------------------

/-- Fields of one width that start texts are read off them, as is what follows. -/
theorem lastDigits_append_inj {width m n : Nat} {rest more : List Char} (fits : m < 10 ^ width)
    (fits' : n < 10 ^ width) (same : lastDigits width m ++ rest = lastDigits width n ++ more)
    : m = n ∧ rest = more := by
  obtain ⟨digits, follow⟩ :=
    List.append_inj same (by rw [length_lastDigits, length_lastDigits])
  refine ⟨?_, follow⟩
  rcases Nat.lt_trichotomy m n with less | equal | greater
  · exact absurd (digits ▸ lastDigits_lt_lastDigits fits' less) (List.lt_irrefl _)
  · exact equal
  · exact absurd (digits ▸ lastDigits_lt_lastDigits fits greater) (List.lt_irrefl _)

theorem isDigit_of_mem_padded {width n : Nat} {c : Char} (member : c ∈ padded width n)
    : c.isDigit = true := by
  rw [padded, List.leftpad, List.mem_append] at member
  rcases member with zero | digit
  · rw [List.eq_of_mem_replicate zero]
    rfl
  · exact Nat.isDigit_of_mem_toDigits (by decide) (by decide) digit

/-- A text that starts with a number starts with a digit. -/
theorem padded_append_ne_cons {width n : Nat} {mark : Char} {rest more : List Char}
    (bounded : mark.isDigit = false)
    : padded width n ++ rest ≠ mark :: more := by
  intro same
  cases digits : padded width n with
  | nil =>
    rw [padded, List.leftpad, List.append_eq_nil_iff] at digits
    exact Nat.toDigits_ne_nil digits.2
  | cons digit _ =>
    have member : digit ∈ padded width n := by
      rw [digits]
      exact List.mem_cons_self ..
    have first := isDigit_of_mem_padded member
    rw [digits] at same
    rw [(List.cons.inj same).1, bounded] at first
    cases first

/-- Zeros in front of a number do not change it. -/
theorem ofDigitChars_padded (width n : Nat) : Nat.ofDigitChars 10 (padded width n) 0 = n := by
  rw [padded, List.leftpad, Nat.ofDigitChars_append, Nat.ofDigitChars_replicate_zero, Nat.mul_zero,
    Nat.ofDigitChars_ten_toDigits]

/-- Numbers of any width that start texts are read off them up to a mark that is no digit, as
is what follows the mark.
-/
theorem padded_append_inj {width m n : Nat} {mark : Char} {rest more : List Char}
    (bounded : mark.isDigit = false)
    (same : padded width m ++ mark :: rest = padded width n ++ mark :: more)
    : m = n ∧ rest = more := by
  have cut (n : Nat) (rest : List Char)
      : (padded width n ++ mark :: rest).takeWhile Char.isDigit = padded width n := by
    rw [List.takeWhile_append_of_pos fun c member => isDigit_of_mem_padded member,
      List.takeWhile_cons_of_neg (by simp [bounded]), List.append_nil]
  have digits : padded width m = padded width n := by
    rw [← cut m rest, same, cut]
  rw [digits] at same
  refine ⟨?_, (List.cons.inj (List.append_cancel_left same)).2⟩
  rw [← ofDigitChars_padded width m, digits, ofDigitChars_padded]

end KeyVault.Decimal
