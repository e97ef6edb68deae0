/-!
Dates of the Gregorian calendar, carried on before its introduction, from the number of days
since the start of 1970. Years count from March inside the computation, so that a leap day
ends a year.
-/

namespace KeyVault

/-- A calendar date. The year before year 1 is 0. -/
structure Date where
  year : Int
  month : Nat
  day : Nat
  deriving DecidableEq, Repr

namespace Date

/-- Days from the first of March of year 0 to the start of 1970. -/
def epochShift : Int :=
  719468

/-- Days in four hundred years. -/
def cycle : Int :=
  146097

/-- The year of a cycle that a day of the cycle falls in, counted from March. -/
def yearOfCycle (day : Nat) : Nat :=
  (day - day / 1460 + day / 36524 - day / 146096) / 365

/-- The day of the year that a day of the cycle is, counted from the first of March. -/
def dayOfYear (day : Nat) : Nat :=
  day - (365 * yearOfCycle day + yearOfCycle day / 4 - yearOfCycle day / 100)

/-- The month that a day of the year falls in, where March is 0. -/
def monthFromMarch (dayOfYear : Nat) : Nat :=
  (5 * dayOfYear + 2) / 153

/-- The date so many days after the first of January 1970. -/
def ofDays (days : Int) : Date :=
  let shifted := days + epochShift
  let day := (shifted % cycle).toNat
  let ordinal := dayOfYear day
  let month := monthFromMarch ordinal
  let marchYear := shifted / cycle * 400 + yearOfCycle day
  { year := if month < 10 then marchYear else marchYear + 1
    month := if month < 10 then month + 3 else month - 9
    day := ordinal - (153 * month + 2) / 5 + 1 }

end Date

end KeyVault
