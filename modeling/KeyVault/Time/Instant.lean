import KeyVault.Time.Date
import KeyVault.Time.Span
/-!
Instants: seconds since the start of 1970, within the years -262143 to 262142, with nanoseconds
after them, and their text in coordinated universal time. The last second of a minute may last
for two: what is then beyond a whole second is a leap second, which the seconds do not count.
-/

namespace KeyVault

namespace Instant

/-- Nanoseconds after a second: less than a second of them, or less than two after the last
second of a minute. The second is within the years that instants have.
-/
def Valid (seconds : Int) (nanos : Nat) : Prop :=
  (-8_334_601_228_800 ≤ seconds ∧ seconds ≤ 8_210_266_876_799)
  ∧ (nanos < 1_000_000_000 ∨ nanos < 2_000_000_000 ∧ seconds % 60 = 59)

instance (seconds : Int) (nanos : Nat) : Decidable (Valid seconds nanos) :=
  inferInstanceAs (Decidable (_ ∧ _))

end Instant

structure Instant where
  seconds : Int
  nanos : Nat
  valid : Instant.Valid seconds nanos
  deriving DecidableEq, Repr

namespace Instant

/-- Instants are in the order of their seconds, and within a second of their nanoseconds. -/
instance : LE Instant :=
  ⟨fun first later =>
    first.seconds < later.seconds ∨ first.seconds = later.seconds ∧ first.nanos ≤ later.nanos⟩

instance (first later : Instant) : Decidable (first ≤ later) :=
  inferInstanceAs (Decidable (_ ∨ _))

instance : LT Instant :=
  ⟨fun first later =>
    first.seconds < later.seconds ∨ first.seconds = later.seconds ∧ first.nanos < later.nanos⟩

instance (first later : Instant) : Decidable (first < later) :=
  inferInstanceAs (Decidable (_ ∨ _))

/-- The instant so many nanoseconds after a second, where there is one. -/
def ofParts? (seconds : Int) (nanos : Nat) : Option Instant :=
  if valid : Valid seconds nanos then some ⟨seconds, nanos, valid⟩ else none

/-- The second of its day that an instant is in. -/
def secondOfDay (instant : Instant) : Nat :=
  (instant.seconds % 86400).toNat

/-- An instant in a leap second. -/
def InLeap (instant : Instant) : Prop :=
  1_000_000_000 ≤ instant.nanos

instance (instant : Instant) : Decidable instant.InLeap :=
  inferInstanceAs (Decidable (_ ≤ _))

/-- The leap second that the difference of two seconds leaves out: the one that an instant is
in when the other one is later in its day, whichever day that is.
-/
def leapsBetween (later earlier : Instant) : Int :=
  if earlier.secondOfDay < later.secondOfDay ∧ earlier.InLeap then 1
  else if later.secondOfDay < earlier.secondOfDay ∧ later.InLeap then -1
  else 0

/-- The span from an earlier instant to a later one; it is negative the other way round. Any
two instants are closer than the limit of spans.
-/
def since (later earlier : Instant) : Span where
  nanos :=
    (later.seconds - earlier.seconds + leapsBetween later earlier) * 1_000_000_000
      + (later.nanos - earlier.nanos)
  bounded := by
    obtain ⟨⟨_, _⟩, _⟩ := later.valid
    obtain ⟨⟨_, _⟩, _⟩ := earlier.valid
    simp only [leapsBetween, Span.limit]
    omega

/-- The nanoseconds after the second that a clock shows. -/
def subsecond (instant : Instant) : Nat :=
  instant.nanos % 1_000_000_000

/-- A year of four digits, with a sign in front when it is negative or has more digits. -/
def yearText (year : Int) : List Char :=
  if 0 ≤ year ∧ year ≤ 9999 then Decimal.padded 4 year.toNat
  else (if year < 0 then '-' else '+') :: Decimal.padded 4 year.natAbs

/-- The shortest of no, three, six or nine places that is exact. -/
def fractionText (nanos : Nat) : List Char :=
  if nanos = 0 then []
  else if nanos % 1_000_000 = 0 then '.' :: Decimal.padded 3 (nanos / 1_000_000)
  else if nanos % 1_000 = 0 then '.' :: Decimal.padded 6 (nanos / 1_000)
  else '.' :: Decimal.padded 9 nanos

/-- The date and the time of day, followed by a zone. A leap second is the second 60 of its
minute.
-/
def textIn (instant : Instant) (zone : List Char) : List Char :=
  let date := Date.ofDays (instant.seconds / 86400)
  let second := instant.secondOfDay
  yearText date.year ++ '-' :: Decimal.padded 2 date.month ++ '-' :: Decimal.padded 2 date.day
    ++ 'T' :: Decimal.padded 2 (second / 3600) ++ ':' :: Decimal.padded 2 (second / 60 % 60)
    ++ ':' :: Decimal.padded 2 (second % 60 + instant.nanos / 1_000_000_000)
    ++ fractionText instant.subsecond ++ zone

/-- The text under which an instant is stored; stored instants are ordered by it. -/
def stamp (instant : Instant) : String :=
  String.ofList (instant.textIn ['+', '0', '0', ':', '0', '0'])

/-- The text of an instant in diagnostics. -/
def describe (instant : Instant) : String :=
  String.ofList (instant.textIn ['Z'])

end Instant

end KeyVault
