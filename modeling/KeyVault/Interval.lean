import KeyVault.Time.Span
/-!
How the two database families store a span of time: one as a number of microseconds, the
other as an interval of months, days and microseconds. Both refuse a span that they cannot
hold exactly.
-/

namespace KeyVault

/-- A family of databases. -/
inductive Scheme where
  | postgres
  | sqlite
  deriving DecidableEq, Repr

def Scheme.name : Scheme → String
  | postgres => "Postgres"
  | sqlite => "Sqlite"

/-- Whether the family inserts or reads in one atomic statement and takes lists as
parameters.
-/
def Scheme.isTransactional : Scheme → Bool
  | postgres => true
  | sqlite => false

/-- An interval of the calendar. -/
structure CalendarInterval where
  months : Int32
  days : Int32
  micros : Int64
  deriving DecidableEq, Repr

namespace Interval

/-- Why a span cannot be stored. -/
inductive Fault where
  /-- Its whole microseconds do not fit a signed 64-bit word. -/
  | tooLong (span : Span)
  /-- It is no whole number of microseconds. -/
  | tooFine (span : Span)
  /-- Its nanoseconds do not fit a signed 64-bit word, which the calendar form asks for. -/
  | calendarTooLong
  /-- It is no whole number of microseconds, in the calendar form. -/
  | calendarTooFine
  deriving DecidableEq, Repr

def Fault.message : Fault → String
  | tooLong span => span.text ++ " does not fit in microseconds"
  | tooFine span => span.text ++ " has sub-microsecond precision"
  | calendarTooLong => "Overflow has occurred for PostgreSQL `INTERVAL`"
  | calendarTooFine => "PostgreSQL `INTERVAL` does not support nanoseconds precision"

/-- Whether a number fits a signed 64-bit word. -/
def fitsWord (n : Int) : Bool :=
  Int64.minValue.toInt ≤ n && n ≤ Int64.maxValue.toInt

/-- The microseconds of a span; a fraction is cut off toward zero before the range is judged. -/
def encodeMicros (span : Span) : Except Fault Int64 :=
  let micros := span.nanos.tdiv 1000
  if fitsWord micros then
    if micros * 1000 = span.nanos then .ok (Int64.ofInt micros) else .error (.tooFine span)
  else .error (.tooLong span)

/-- The span of so many microseconds. -/
def decodeMicros (micros : Int64) : Span :=
  .ofMicros micros

/-- The calendar interval of a span, which has microseconds only. -/
def encodeCalendar (span : Span) : Except Fault CalendarInterval :=
  if fitsWord span.nanos then
    if span.nanos % 1000 = 0 then .ok ⟨0, 0, Int64.ofInt (span.nanos / 1000)⟩ else .error .calendarTooFine
  else .error .calendarTooLong

/-- Days in a month of a calendar interval. -/
def daysPerMonth : Int :=
  30

def nanosPerDay : Int :=
  86_400_000_000_000

/-- The days of a calendar interval, months included. -/
def totalDays (interval : CalendarInterval) : Int :=
  interval.days.toInt + interval.months.toInt * daysPerMonth

/-- The span of the days of a calendar interval, months included. -/
def wholeDays (interval : CalendarInterval) : Span where
  nanos := totalDays interval * nanosPerDay
  bounded := by
    have := interval.days.toInt_lt
    have := interval.days.le_toInt
    have := interval.months.toInt_lt
    have := interval.months.le_toInt
    simp only [totalDays, daysPerMonth, nanosPerDay, Span.limit]
    omega

/-- The span of a calendar interval. No interval is beyond the limit of spans. -/
def decodeCalendar (interval : CalendarInterval) : Span where
  nanos := (Span.ofMicros interval.micros).nanos + (wholeDays interval).nanos
  bounded := by
    have := interval.micros.toInt_lt
    have := interval.micros.le_toInt
    have := interval.days.toInt_lt
    have := interval.days.le_toInt
    have := interval.months.toInt_lt
    have := interval.months.le_toInt
    simp only [Span.ofMicros, wholeDays, totalDays, daysPerMonth, nanosPerDay, Span.limit]
    omega

end Interval

end KeyVault
