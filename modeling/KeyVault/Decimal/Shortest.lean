/-!
Shortest decimal text of a binary floating-point number: the fewest digits that still lie in
the interval of reals which round to the number, and of those the digits nearest to it.
-/

namespace KeyVault.Decimal

/-- A finite positive number as a fraction, with the ends of the interval that rounds to it,
all over one denominator. The ends count when the significand is even.
-/
structure Neighbourhood where
  value : Nat
  low : Nat
  high : Nat
  denominator : Nat
  closed : Bool
  deriving DecidableEq, Repr

namespace Neighbourhood

/-- The neighbourhood of significand · 2^exponent. Below a power of two the interval is half
as wide, unless the number is subnormal.
-/
def ofBinary (significand : Nat) (exponent : Int) (narrow : Bool) : Neighbourhood :=
  let up := Nat.pow 2 exponent.toNat
  let down := Nat.pow 2 (-exponent).toNat
  ⟨significand * 4 * up, (significand * 4 - (if narrow then 1 else 2)) * up, (significand * 4 + 2) * up,
    down * 4, significand % 2 == 0⟩

/-- Whether numerator / denominator lies in the interval. -/
def holds (n : Neighbourhood) (numerator denominator : Nat) : Bool :=
  let scaled := numerator * n.denominator
  if n.closed then n.low * denominator ≤ scaled && scaled ≤ n.high * denominator
  else n.low * denominator < scaled && scaled < n.high * denominator

/-- How far numerator / denominator is from the value, up to a common factor. -/
def distance (n : Neighbourhood) (numerator denominator : Nat) : Nat :=
  let scaled := numerator * n.denominator
  let value := n.value * denominator
  (scaled - value) + (value - scaled)

/-- The point of the grid of multiples of 10^place that lies in the interval nearest to the
value; of two equally near points the even one.
-/
def onGrid (n : Neighbourhood) (place : Int) : Option Nat :=
  let up := Nat.pow 10 place.toNat
  let down := Nat.pow 10 (-place).toNat
  let below := n.value * down / (n.denominator * up)
  let above := below + 1
  match n.holds (below * up) down, n.holds (above * up) down with
  | true, false => some below
  | false, true => some above
  | false, false => none
  | true, true =>
    let lower := n.distance (below * up) down
    let upper := n.distance (above * up) down
    if lower < upper || (lower == upper && below % 2 == 0) then some below else some above

/-- The decimal exponent of the first digit, found by counting down from a bound. -/
def leadingPlace (n : Neighbourhood) : Nat → Int → Int
  | 0, place => place
  | fuel + 1, place =>
    if n.denominator * Nat.pow 10 place.toNat ≤ n.value * Nat.pow 10 (-place).toNat then place
    else leadingPlace n fuel (place - 1)

/-- The first grid that has a point, from one digit up to seventeen, with the place of its
last digit.
-/
def fewest (n : Neighbourhood) (leading : Int) : Option (Nat × Int) :=
  (List.range 17).findSome? fun (more : Nat) =>
    (n.onGrid (leading - more)).map fun point => (point, leading - more)

end Neighbourhood

/-- Drops the zeros at the end of a number and counts them. -/
def strip (n : Nat) : Nat × Nat :=
  if n = 0 ∨ n % 10 ≠ 0 then (n, 0)
  else
    let (stripped, zeros) := strip (n / 10)
    (stripped, zeros + 1)
termination_by n
decreasing_by omega

/-- How decimal digits are laid out. -/
structure Layout where
  /-- The least exponent that is written positionally. -/
  lowest : Int
  /-- The greatest exponent that is written positionally. -/
  highest : Int

/-- Numbers from 0.00001 up to below 10^16 are written positionally and always with a point;
an exponent has a sign and no leading zeros.
-/
def layout : Layout :=
  ⟨-5, 15⟩

/-- The digits of a number, at least so many of them. -/
def padded (width n : Nat) : List Char :=
  (Nat.toDigits 10 n).leftpad width '0'

/-- The text of digits · 10^place by a layout. -/
def Layout.write (l : Layout) (digits : Nat) (place : Int) : List Char :=
  let (digits, zeros) := strip digits
  let place := place + zeros
  let text := Nat.toDigits 10 digits
  let exponent := place + text.length - 1
  if exponent < l.lowest ∨ l.highest < exponent then
    let point := match text with
      | first :: second :: rest => first :: '.' :: second :: rest
      | _ => text
    point ++ 'e' :: (if exponent < 0 then '-' else '+') :: Nat.toDigits 10 exponent.natAbs
  else if 0 ≤ place then
    text ++ List.replicate place.toNat '0' ++ ['.', '0']
  else if 0 ≤ exponent then
    text.take (exponent.toNat + 1) ++ '.' :: text.drop (exponent.toNat + 1)
  else
    '0' :: '.' :: List.replicate ((-exponent).toNat - 1) '0' ++ text

/-- The bit above the magnitude of a floating-point number. -/
def signBit : Nat :=
  0x8000000000000000

/-- The leading bit of a significand, which is not stored. -/
def hiddenBit : Nat :=
  0x10000000000000

/-- The text of a floating-point number given by its bits. -/
def shortest (bits : UInt64) : String :=
  let magnitude := bits.toNat % signBit
  let sign := if signBit ≤ bits.toNat then ['-'] else []
  let field := magnitude / hiddenBit
  let stored := magnitude % hiddenBit
  if field = 2047 then
    if stored = 0 then String.ofList (sign ++ ['i', 'n', 'f']) else "NaN"
  else if magnitude = 0 then String.ofList (sign ++ ['0', '.', '0'])
  else
    let subnormal := field == 0
    let significand := if subnormal then stored else stored + hiddenBit
    let exponent : Int := Int.ofNat (if subnormal then 1 else field) - 1075
    let around := Neighbourhood.ofBinary significand exponent (stored == 0 && 1 < field)
    match around.fewest (around.leadingPlace 640 309) with
    | some (digits, place) => String.ofList (sign ++ layout.write digits place)
    | none => String.ofList sign

end KeyVault.Decimal
