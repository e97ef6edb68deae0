import KeyVault.Json.Token
/-!
Written tokens are read back one by one. A number ends where no digit, point or exponent
follows it, so that all which is asked of a written sequence is that no number stands
directly behind another.
-/

namespace KeyVault.Json

open Utf8 (Glyph)

section Numbers

/-- A text in which a number that stands before it has ended. -/
def EndsNumber (text : List Glyph) : Prop :=
  ∀ c ∈ text.head?, ∀ d ∈ c, d.isDigit = false ∧ d ≠ '.' ∧ d ≠ 'e' ∧ d ≠ 'E'

variable {rest : List Glyph}

/-- Digits are taken up to the first character that is none, by induction over them. -/
theorem takeDigits_append {digits : List Char} (all : ∀ d ∈ digits, d.isDigit = true)
    (ends : EndsNumber rest)
    : takeDigits (digits.map some ++ rest) = (digits, rest) := by
  induction digits with
  | nil =>
    cases rest with
    | nil => rfl
    | cons glyph rest =>
      cases glyph with
      | none => rfl
      | some c =>
        have other := (ends (some c) rfl c rfl).1
        simp [takeDigits, other]
  | cons digit digits ih =>
    have first := all digit (List.mem_cons_self ..)
    have taken := ih fun d member => all d (List.mem_cons_of_mem _ member)
    simp [takeDigits, first, taken]

/-- The digits of a positive number do not start with a zero, by induction on the number:
all its digits but the last are those of its tenth.
-/
theorem head?_toDigits_ne_zero {n : Nat} (positive : 0 < n)
    : (Nat.toDigits 10 n).head? ≠ some '0' := by
  induction n using Nat.strongRecOn with
  | ind n ih =>
    by_cases small : n < 10
    · have all : ∀ n < 10, 0 < n → [Nat.digitChar n].head? ≠ some '0' := by decide
      rw [Nat.toDigits_of_lt_base small]
      exact all n small positive
    · have tenth := ih (n / 10) (by omega) (by omega)
      rw [Nat.toDigits_of_base_le (by decide) (by omega), List.head?_append]
      cases digits : Nat.toDigits 10 (n / 10) with
      | nil => exact absurd digits Nat.toDigits_ne_nil
      | cons digit _ =>
        rw [digits] at tenth
        exact tenth

/-- A number is written with a digit in front. -/
theorem exists_toDigits_eq_cons (n : Nat)
    : ∃ digit digits, Nat.toDigits 10 n = digit :: digits ∧ digit.isDigit = true := by
  obtain ⟨digit, digits, same⟩ :=
    List.exists_cons_of_ne_nil (Nat.toDigits_ne_nil (b := 10) (n := n))
  refine ⟨digit, digits, same, ?_⟩
  exact Nat.isDigit_of_mem_toDigits (b := 10) (n := n) (by decide) (by decide) (by rw [same]; simp)

/-- The digits of a number are all that is written of it. -/
theorem spell_ofNat (n : Nat) : (Numeral.ofNat n).spell = Nat.toDigits 10 n := by
  simp [Numeral.spell, Numeral.ofNat]

/-- The digits of a number are taken as a whole part. -/
theorem takeWhole_toDigits_append (n : Nat) (ends : EndsNumber rest)
    : takeWhole ((Nat.toDigits 10 n).map some ++ rest) = some (Nat.toDigits 10 n, rest) := by
  have all : ∀ d ∈ Nat.toDigits 10 n, d.isDigit = true := fun d member =>
    Nat.isDigit_of_mem_toDigits (by decide) (by decide) member
  have taken := takeDigits_append all ends
  fun_cases takeWhole ((Nat.toDigits 10 n).map some ++ rest) with
  | case1 after nothing =>
    exact absurd (Prod.mk.inj (taken.symm.trans nothing)).1 Nat.toDigits_ne_nil
  -- A leading zero with more digits behind it is refused, but no number is written so.
  | case2 second more after leading =>
    have digits := (Prod.mk.inj (taken.symm.trans leading)).1
    rcases Nat.eq_zero_or_pos n with rfl | positive
    · cases digits
    · exact absurd (by rw [digits]; rfl) (head?_toDigits_ne_zero positive)
  | case3 digits after _ _ found =>
    obtain ⟨rfl, rfl⟩ := Prod.mk.inj (taken.symm.trans found)
    rfl

theorem takeFraction_of_ends (ends : EndsNumber rest) : takeFraction rest = some ([], rest) := by
  fun_cases takeFraction rest with
  | case1 => exact absurd rfl (ends (some '.') rfl '.' rfl).2.1
  | case2 => exact absurd rfl (ends (some '.') rfl '.' rfl).2.1
  | case3 => rfl

theorem takeExponent_of_ends (ends : EndsNumber rest)
    : takeExponent rest = some (none, rest) := by
  rcases rest with _ | ⟨_ | c, after⟩
  · rfl
  · rfl
  · have other := (ends (some c) rfl c rfl).2.2
    unfold takeExponent
    exact if_neg (by simpa [not_or] using other)

/-- The written form of a natural number is taken as that number. -/
theorem takeNumeral_spell_append (n : Nat) (ends : EndsNumber rest)
    : takeNumeral ((Numeral.ofNat n).spell.map some ++ rest) = some (Numeral.ofNat n, rest) := by
  have whole := takeWhole_toDigits_append n ends
  obtain ⟨digit, digits, written, isDigit⟩ := exists_toDigits_eq_cons n
  rw [spell_ofNat]
  -- The first character is a digit, so that it is no sign.
  have unsigned
      : takeNumeral ((Nat.toDigits 10 n).map some ++ rest)
        = takeMagnitude false ((Nat.toDigits 10 n).map some ++ rest) := by
    have plain : digit ≠ '-' := by
      rintro rfl
      cases isDigit
    simp [written, takeNumeral, plain]
  rw [unsigned]
  simp [takeMagnitude, whole, takeFraction_of_ends ends, takeExponent_of_ends ends, Numeral.ofNat]

end Numbers

namespace Token

/-- A token that stands for a number. -/
def isNumber : Token → Bool
  | number _ => true
  | _ => false

/-- The tokens that values are written with: no broken one, no string without text, and
natural numbers.
-/
def Written : Token → Prop
  | number numeral => ∃ n, numeral = .ofNat n
  | string text => text.isSome = true
  | broken => False
  | _ => True

variable {c : Char} {rest after : List Glyph} {token : Token}

/-- A character that is no blank starts the token that is taken there. -/
theorem ofGlyphs_cons (visible : isBlank c = false) (taken : take c rest = some (token, after))
    : ofGlyphs (some c :: rest) = token :: ofGlyphs after := by
  rw [ofGlyphs]
  simp only [visible, Bool.false_eq_true, if_false]
  split <;> simp_all

/-- No mark, no quote and no blank is a digit. -/
theorem plain_of_isDigit (digit : c.isDigit = true)
    : mark c = none ∧ c ≠ '"' ∧ isBlank c = false := by
  refine ⟨?_, ?_, ?_⟩
  · unfold mark
    split <;> first | rfl | cases digit
  · rintro rfl
    cases digit
  · simp only [isBlank, Bool.or_eq_false_iff, beq_eq_false_iff_ne, ne_eq]
    refine ⟨⟨⟨?_, ?_⟩, ?_⟩, ?_⟩ <;> (rintro rfl; cases digit)

/-- A written token is read back in front of a text; behind a number the text must have
ended it.
-/
theorem ofGlyphs_spell_append (token : Token) (written : token.Written)
    (ends : token.isNumber = true → EndsNumber rest)
    : ofGlyphs (token.spell.map some ++ rest) = token :: ofGlyphs rest := by
  cases token with
  | broken => cases written
  | string text =>
    cases text with
    | none => cases written
    | some text =>
      obtain ⟨pieces, assembled, taken⟩ := takeString_quote text rest
      have quoted
          : take '"' ((text.flatMap escape ++ ['"']).map some ++ rest)
            = some (string (some text), rest) := by
        have unmarked : mark '"' = none := rfl
        simp only [take, unmarked, if_true, taken, Option.map_some, assembled]
      exact ofGlyphs_cons rfl quoted
  | number numeral =>
    obtain ⟨n, rfl⟩ := written
    obtain ⟨digit, digits, spelled, isDigit⟩ := exists_toDigits_eq_cons n
    obtain ⟨unmarked, unquoted, visible⟩ := plain_of_isDigit isDigit
    have taken := takeNumeral_spell_append n (ends rfl)
    simp only [spell, spell_ofNat, spelled, List.map_cons, List.cons_append] at taken ⊢
    refine ofGlyphs_cons visible ?_
    simp [take, unmarked, unquoted, isDigit, taken]
  | boolean value => cases value <;> exact ofGlyphs_cons rfl rfl
  | _ => exact ofGlyphs_cons rfl rfl

/-- A sequence of written tokens in which no number stands directly behind another. -/
inductive Legible : List Token → Prop
  | nil : Legible []
  | cons {token tokens} (written : token.Written)
    (apart : token.isNumber = true → ∀ next ∈ tokens.head?, next.isNumber = false)
    (legible : Legible tokens)
    : Legible (token :: tokens)

/-- Another token than a number can stand in front of anything. -/
theorem Legible.plain {tokens : List Token} (written : token.Written)
    (other : token.isNumber = false) (legible : Legible tokens)
    : Legible (token :: tokens) := by
  refine .cons written ?_ legible
  intro number
  rw [other] at number
  cases number

/-- Another token than a number is written with a character in front that ends a number. -/
theorem endsNumber_spell_append (written : token.Written) (other : token.isNumber = false)
    : EndsNumber (token.spell.map some ++ rest) := by
  cases token with
  | broken => cases written
  | number numeral => cases other
  | string text =>
    cases text with
    | none => cases written
    | some text =>
      intro c first d same
      cases first
      cases same
      decide
  | boolean value =>
    intro c first d same
    cases value <;>
      · cases first
        cases same
        decide
  | _ =>
    intro c first d same
    cases first
    cases same
    decide

/-- Legible tokens are read back from their text, by induction over them. -/
theorem ofGlyphs_render {tokens : List Token} (legible : Legible tokens)
    : ofGlyphs ((render tokens).map some) = tokens := by
  induction legible with
  | nil => simp [render, ofGlyphs]
  | @cons token tokens written apart legible ih =>
    simp only [render, List.flatMap_cons, List.map_append] at ih ⊢
    rw [ofGlyphs_spell_append token written, ih]
    intro number
    cases legible with
    | nil => intro c first; cases first
    | @cons next tokens nextWritten =>
      simp only [List.flatMap_cons, List.map_append]
      exact endsNumber_spell_append nextWritten (apart number next rfl)

end Token

end KeyVault.Json
