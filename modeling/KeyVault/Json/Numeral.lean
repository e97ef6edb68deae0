/-!
Numbers as JSON writes them, and what they denote. A numeral without fraction and exponent
denotes an integer when it fits the 64-bit range of its sign; every other numeral denotes a
binary floating-point number, scaled from a 64-bit significand by one power of ten.
-/

namespace KeyVault.Json

/-- The parts of a written number; digits are kept as they stand. -/
structure Numeral where
  negative : Bool
  whole : List Char
  fraction : List Char
  exponent : Option (Bool × List Char)
  deriving DecidableEq, Repr

/-- What a numeral denotes. A floating-point number is held by its bits. -/
inductive Number where
  | integer (value : Int)
  | real (bits : UInt64)
  deriving DecidableEq, Repr

namespace Numeral

/-- The numeral of a natural number. -/
def ofNat (n : Nat) : Numeral :=
  ⟨false, Nat.toDigits 10 n, [], none⟩

/-- Appends digits to a significand for as long as it fits 64 bits: the significand reached
and how many digits it took.
-/
def absorb (significand : Nat) : List Char → Nat × Nat
  | [] => (significand, 0)
  | digit :: rest =>
    let next := significand * 10 + (digit.toNat - '0'.toNat)
    if next < UInt64.size then
      let (reached, taken) := absorb next rest
      (reached, taken + 1)
    else (significand, 0)

/-- Scales by a power of ten in one multiplication or division; a power below 10^-308 is
reached by repeated division. There is no result where the product is infinite.
-/
def scale (x : Float) (exponent : Int) : Option Float :=
  if exponent < -308 then
    if x == 0 then some x else scale (x / Float.ofScientific 1 false 308) (exponent + 308)
  else if exponent < 0 then
    some (x / Float.ofScientific 1 false exponent.natAbs)
  else if exponent ≤ 308 then
    let product := x * Float.ofScientific 1 false exponent.natAbs
    if product.isInf then none else some product
  else if x == 0 then some x
  else none
termination_by (-exponent).toNat

/-- The sign is put on last, so that a negative zero keeps it. -/
def signed (negative : Bool) (x : Float) : UInt64 :=
  if negative then (-x).toBits else x.toBits

/-- The largest exponent that is computed with. -/
def exponentLimit : Nat :=
  2_147_483_647

/-- The floating-point reading. Integer digits beyond the significand raise the exponent,
fraction digits beyond it are dropped. An exponent above the limit is zero or out of range
without any scaling.
-/
def real (n : Numeral) : Option UInt64 :=
  let (whole, taken) := absorb 0 n.whole
  let (significand, places) := absorb whole n.fraction
  let start : Int := (n.whole.length - taken : Nat) - (places : Nat)
  let scaled (exponent : Int) := (scale (UInt64.ofNat significand).toFloat exponent).map (signed n.negative)
  match n.exponent with
  | none => scaled start
  | some (down, digits) =>
    let written := Nat.ofDigitChars 10 digits 0
    if exponentLimit < written then
      if significand != 0 && !down then none else some (signed n.negative 0)
    else if down then scaled (start - written)
    else scaled (start + written)

/-- What a numeral denotes, or none when it is out of range. A negative zero and an integer
outside the 64-bit range of its sign are read as floating-point numbers.
-/
def value (n : Numeral) : Option Number :=
  let magnitude := Nat.ofDigitChars 10 n.whole 0
  if n.fraction.isEmpty && n.exponent.isNone then
    if n.negative then
      if magnitude != 0 && Int64.minValue.toInt ≤ -(magnitude : Int) then some (.integer (-(magnitude : Int)))
      else n.real.map .real
    else if magnitude < UInt64.size then some (.integer magnitude)
    else n.real.map .real
  else n.real.map .real

/-- The text of a numeral. -/
def spell (n : Numeral) : List Char :=
  (if n.negative then ['-'] else [])
  ++ n.whole
  ++ (if n.fraction.isEmpty then [] else '.' :: n.fraction)
  ++ (match n.exponent with
      | none => []
      | some (down, digits) => 'e' :: (if down then ['-'] else []) ++ digits)

/-- The numeral of a number that fits 64 bits denotes that number. -/
theorem value_ofNat {n : Nat} (h : n < UInt64.size)
    : (ofNat n).value = some (.integer n) := by
  have digits : Nat.ofDigitChars 10 (Nat.toDigits 10 n) 0 = n :=
    Nat.ofDigitChars_toDigits (by decide) (by decide)
  simp only [value, ofNat, digits, List.isEmpty_nil, Option.isNone_none, Bool.and_self, if_true,
    Bool.false_eq_true, if_false, h]

end Numeral

/-- Takes the digits in front of a text. -/
def takeDigits : List (Option Char) → List Char × List (Option Char)
  | some c :: rest =>
    if c.isDigit then
      let (digits, after) := takeDigits rest
      (c :: digits, after)
    else ([], some c :: rest)
  | rest => ([], rest)

theorem takeDigits_length (text : List (Option Char))
    : (takeDigits text).2.length + (takeDigits text).1.length = text.length := by
  fun_induction takeDigits text <;> simp_all +arith

/-- A fraction needs a digit after its point. -/
def takeFraction : List (Option Char) → Option (List Char × List (Option Char))
  | some '.' :: rest =>
    match takeDigits rest with
    | ([], _) => none
    | (digits, after) => some (digits, after)
  | rest => some ([], rest)

/-- The digits of an exponent, of which there is at least one. -/
def takePower (down : Bool) (text : List (Option Char))
    : Option (Option (Bool × List Char) × List (Option Char)) :=
  match takeDigits text with
  | ([], _) => none
  | (digits, after) => some (some (down, digits), after)

/-- An exponent may carry a sign. -/
def takeExponent : List (Option Char) → Option (Option (Bool × List Char) × List (Option Char))
  | some c :: rest =>
    if c = 'e' ∨ c = 'E' then
      match rest with
      | some '+' :: after => takePower false after
      | some '-' :: after => takePower true after
      | _ => takePower false rest
    else some (none, some c :: rest)
  | rest => some (none, rest)

/-- The integer part is a single zero or starts with another digit. -/
def takeWhole (text : List (Option Char)) : Option (List Char × List (Option Char)) :=
  match takeDigits text with
  | ([], _) => none
  | ('0' :: _ :: _, _) => none
  | (digits, after) => some (digits, after)

/-- The unsigned part of a number. -/
def takeMagnitude (negative : Bool) (text : List (Option Char))
    : Option (Numeral × List (Option Char)) := do
  let (whole, afterWhole) ← takeWhole text
  let (fraction, afterFraction) ← takeFraction afterWhole
  let (exponent, rest) ← takeExponent afterFraction
  pure (⟨negative, whole, fraction, exponent⟩, rest)

/-- The number that a text starts with, and what follows it. -/
def takeNumeral : List (Option Char) → Option (Numeral × List (Option Char))
  | some '-' :: rest => takeMagnitude true rest
  | text => takeMagnitude false text

theorem takeFraction_length {text rest : List (Option Char)} {digits : List Char}
    (h : takeFraction text = some (digits, rest))
    : rest.length ≤ text.length := by
  fun_cases takeFraction text with
  | case1 => simp_all [takeFraction]
  | case2 after digits behind taken =>
    have lengths := takeDigits_length after
    simp_all only [takeFraction, Option.some.injEq, Prod.mk.injEq, List.length_cons]
    omega
  | case3 => simp_all [takeFraction]

theorem takePower_length {down : Bool} {text rest : List (Option Char)}
    {power : Option (Bool × List Char)}
    (h : takePower down text = some (power, rest))
    : rest.length ≤ text.length := by
  unfold takePower at h
  have lengths := takeDigits_length text
  split at h
  · simp at h
  · simp only [Option.some.injEq, Prod.mk.injEq] at h
    simp_all only
    omega

theorem takeExponent_length {text rest : List (Option Char)} {power : Option (Bool × List Char)}
    (h : takeExponent text = some (power, rest))
    : rest.length ≤ text.length := by
  unfold takeExponent at h
  split at h
  · split at h
    · split at h
      all_goals
        have := takePower_length h
        simp_all only [List.length_cons]
        omega
    · simp_all
  · simp_all

theorem takeWhole_length {text rest : List (Option Char)} {digits : List Char}
    (h : takeWhole text = some (digits, rest))
    : rest.length < text.length := by
  have lengths := takeDigits_length text
  fun_cases takeWhole text with
  | case1 => simp_all [takeWhole]
  | case2 => simp_all [takeWhole]
  | case3 found after empty leading taken =>
    rw [taken] at lengths
    cases found with
    | nil => simp_all
    | cons c cs =>
      simp only [takeWhole, taken, Option.some.injEq, Prod.mk.injEq] at h
      obtain ⟨rfl, rfl⟩ := h
      simp only [List.length_cons] at lengths
      omega

theorem takeMagnitude_length {negative : Bool} {text rest : List (Option Char)} {n : Numeral}
    (h : takeMagnitude negative text = some (n, rest))
    : rest.length < text.length := by
  simp only [takeMagnitude, Option.bind_eq_bind, Option.bind_eq_some_iff, Prod.exists, Option.pure_def,
    Option.some.injEq, Prod.mk.injEq] at h
  obtain ⟨_, _, whole, _, _, fraction, _, _, exponent, _, rfl⟩ := h
  have := takeWhole_length whole
  have := takeFraction_length fraction
  have := takeExponent_length exponent
  omega

/-- A number takes at least one character. -/
theorem takeNumeral_length {text rest : List (Option Char)} {n : Numeral}
    (h : takeNumeral text = some (n, rest))
    : rest.length < text.length := by
  unfold takeNumeral at h
  split at h
  · have := takeMagnitude_length h
    simp only [List.length_cons]
    omega
  · exact takeMagnitude_length h

end KeyVault.Json
