import KeyVault.Decimal.Shortest
/-!
Spans of time: exact numbers of nanoseconds, positive or negative, within a symmetric limit.
-/

namespace KeyVault

/-- The greatest magnitude of a span: the milliseconds that fit a signed 64-bit word. -/
def Span.limit : Nat :=
  9_223_372_036_854_775_807_000_000

structure Span where
  nanos : Int
  bounded : nanos.natAbs ≤ Span.limit
  deriving DecidableEq, Repr

namespace Span

/-- The span of so many nanoseconds, when it is within the limit. -/
def ofNanos? (nanos : Int) : Option Span :=
  if bounded : nanos.natAbs ≤ limit then some ⟨nanos, bounded⟩ else none

def ofMicros (micros : Int64) : Span where
  nanos := micros.toInt * 1000
  bounded := by
    have := micros.toInt_lt
    have := micros.le_toInt
    simp only [limit]
    omega

def week : Span :=
  ⟨604_800_000_000_000, by decide⟩

/-- The text of a span: nothing is zero days, anything else is seconds, with a sign and a
fraction where they are needed.
-/
def text (span : Span) : String :=
  let magnitude := span.nanos.natAbs
  if magnitude = 0 then "P0D"
  else
    let sign := if span.nanos < 0 then ['-'] else []
    let seconds := Nat.toDigits 10 (magnitude / 1_000_000_000)
    let places := ((Decimal.padded 9 (magnitude % 1_000_000_000)).reverse.dropWhile (· == '0')).reverse
    let fraction := if places.isEmpty then [] else '.' :: places
    String.ofList (sign ++ ['P', 'T'] ++ seconds ++ fraction ++ ['S'])

end Span

end KeyVault
