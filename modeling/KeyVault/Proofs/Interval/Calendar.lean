import KeyVault.Proofs.Interval.Micros
/-!
The two stored forms of a span against each other. The calendar form asks for nanoseconds that
fit a word and is the narrower one; what it holds, the number of microseconds holds too, and
both give the span back. Every calendar interval has a span, which no step of its computation
leaves the range of.
-/

namespace KeyVault.Interval

-----------------------------------------------------------------------------------------
-- Storing
-----------------------------------------------------------------------------------------

/-- A span is stored as a calendar interval when its nanoseconds fit a word and are a whole
number of microseconds, which is all that the interval has.
-/
theorem encodeCalendar_eq_ok_iff {span : Span} {interval : CalendarInterval}
    : encodeCalendar span = .ok interval
      ↔ fitsWord span.nanos = true
        ∧ span.nanos = interval.micros.toInt * 1000
        ∧ interval.months = 0
        ∧ interval.days = 0 := by
  obtain ⟨months, days, micros⟩ := interval
  unfold encodeCalendar
  by_cases fits : fitsWord span.nanos = true
  · rw [if_pos fits]
    obtain ⟨least, greatest⟩ := (fitsWord_iff _).mp fits
    have divided : fitsWord (span.nanos / 1000) = true := by
      have minimum : Int64.minValue.toInt = -9223372036854775808 := by decide
      have maximum : Int64.maxValue.toInt = 9223372036854775807 := by decide
      exact (fitsWord_iff _).mpr (by omega)
    have word := toInt_ofInt_of_fits divided
    by_cases fine : span.nanos % 1000 = 0
    · rw [if_pos fine]
      simp only [Except.ok.injEq, CalendarInterval.mk.injEq]
      constructor
      · rintro ⟨rfl, rfl, rfl⟩
        exact ⟨fits, by omega, rfl, rfl⟩
      · rintro ⟨_, same, rfl, rfl⟩
        refine ⟨rfl, rfl, Int64.toInt_inj.mp ?_⟩
        omega
    · rw [if_neg fine]
      refine ⟨nofun, fun ⟨_, same, _⟩ => absurd ?_ fine⟩
      omega
  · rw [if_neg fits]
    exact ⟨nofun, fun ⟨within, _⟩ => absurd within fits⟩

/-- What is stored as a calendar interval is stored as its microseconds. -/
theorem encodeMicros_of_encodeCalendar {span : Span} {interval : CalendarInterval}
    (encoded : encodeCalendar span = .ok interval)
    : encodeMicros span = .ok interval.micros :=
  encodeMicros_eq_ok_iff.mpr (encodeCalendar_eq_ok_iff.mp encoded).2.1

/-- What is stored as microseconds is refused as a calendar interval when its nanoseconds do
not fit a word.
-/
theorem encodeCalendar_eq_error_iff {span : Span} {micros : Int64} {fault : Fault}
    (encoded : encodeMicros span = .ok micros)
    : encodeCalendar span = .error fault
      ↔ fitsWord span.nanos = false ∧ fault = .calendarTooLong := by
  have same := encodeMicros_eq_ok_iff.mp encoded
  have fine : span.nanos % 1000 = 0 := by omega
  simp only [encodeCalendar, fine, if_true]
  cases fitsWord span.nanos with
  | false => simp [eq_comm]
  | true => simp

-----------------------------------------------------------------------------------------
-- Reading
-----------------------------------------------------------------------------------------

/-- The word of a number, if it fits one. -/
def word? (n : Int) : Option Int64 :=
  if fitsWord n then some (.ofInt n) else none

/-- The span of so many days, by way of their seconds; none when these do not fit a word or
the span is beyond the limit.
-/
def daysSpan? (days : Int64) : Option Span := do
  let seconds ← word? (days.toInt * 86_400)
  Span.ofNanos? (seconds.toInt * 1_000_000_000)

/-- The span of a calendar interval step by step: its months in days, the days of both, the
spans of the microseconds and of the days, and their sum. There is none when a step leaves the
range of words or of spans.
-/
def decodeCalendar? (interval : CalendarInterval) : Option Span := do
  let months ← word? (interval.months.toInt * daysPerMonth)
  let days ← word? (interval.days.toInt + months.toInt)
  let micros ← Span.ofNanos? (interval.micros.toInt * 1000)
  let whole ← daysSpan? days
  Span.ofNanos? (micros.nanos + whole.nanos)

/-- A number between the bounds of words is the value of one. -/
theorem exists_word?_eq_some {n : Int} (least : -9223372036854775808 ≤ n)
    (greatest : n ≤ 9223372036854775807)
    : ∃ word, word? n = some word ∧ word.toInt = n := by
  have fits : fitsWord n = true := (fitsWord_iff n).mpr ⟨least, greatest⟩
  exact ⟨.ofInt n, by simp [word?, fits], toInt_ofInt_of_fits fits⟩

/-- The span of a calendar interval is its microseconds and its days, of which a month has
thirty.
-/
theorem nanos_decodeCalendar (interval : CalendarInterval)
    : (decodeCalendar interval).nanos
      = interval.micros.toInt * 1000
        + (interval.days.toInt + 30 * interval.months.toInt) * 86_400_000_000_000 := by
  simp only [decodeCalendar, Span.ofMicros, wholeDays, totalDays, daysPerMonth, nanosPerDay]
  omega

/-- No step towards the span of a calendar interval leaves its range: the days of all months of
a 32-bit word fit a 64-bit word many times over, and the spans of the days and the microseconds
are far from the limit.
-/
theorem decodeCalendar?_eq_some (interval : CalendarInterval)
    : decodeCalendar? interval = some (decodeCalendar interval) := by
  have leastMonths := interval.months.le_toInt
  have mostMonths := interval.months.toInt_lt
  have leastDays := interval.days.le_toInt
  have mostDays := interval.days.toInt_lt
  obtain ⟨months, inDays, monthDays⟩ :=
    exists_word?_eq_some (n := interval.months.toInt * 30) (by omega) (by omega)
  obtain ⟨days, summed, allDays⟩ :=
    exists_word?_eq_some (n := interval.days.toInt + months.toInt) (by omega) (by omega)
  obtain ⟨seconds, inSeconds, daySeconds⟩ :=
    exists_word?_eq_some (n := days.toInt * 86_400) (by omega) (by omega)
  have whole : daysSpan? days = some (wholeDays interval) := by
    simp only [daysSpan?, inSeconds, Option.bind_eq_bind, Option.bind_some,
      Span.ofNanos?_eq_some_iff, wholeDays, totalDays, daysPerMonth, nanosPerDay]
    omega
  have micros
      : Span.ofNanos? (interval.micros.toInt * 1000) = some (Span.ofMicros interval.micros) :=
    Span.ofNanos?_eq_some_iff.mpr rfl
  simp only [decodeCalendar?, daysPerMonth, inDays, summed, micros, whole, Option.bind_eq_bind,
    Option.bind_some, Span.ofNanos?_eq_some_iff]
  rfl

-----------------------------------------------------------------------------------------
-- The two forms
-----------------------------------------------------------------------------------------

/-- A calendar interval of microseconds only has their span. -/
theorem decodeCalendar_of_micros {interval : CalendarInterval} (months : interval.months = 0)
    (days : interval.days = 0)
    : decodeCalendar interval = decodeMicros interval.micros := by
  apply Span.eq_of_nanos
  rw [nanos_decodeCalendar, months, days]
  exact Int.add_zero _

/-- The two forms of a span agree. What the calendar form holds, the other one holds as the same
microseconds, and both give it back; of what the other form holds, the calendar form refuses just
what has more nanoseconds than fit a word. Every calendar interval has a span, computed within the
range of words and of spans: its microseconds and its days, with thirty for a month.
-/
theorem interval_forms_agree (span : Span) (interval : CalendarInterval)
    : let fits := Int64.minValue.toInt ≤ span.nanos ∧ span.nanos ≤ Int64.maxValue.toInt
      (∀ stored,
        encodeCalendar span = .ok stored
        → stored.months = 0
          ∧ stored.days = 0
          ∧ encodeMicros span = .ok stored.micros
          ∧ decodeCalendar stored = span
          ∧ decodeMicros stored.micros = span)
      ∧ (∀ micros,
          encodeMicros span = .ok micros
          → ((∃ fault, encodeCalendar span = .error fault) ↔ ¬ fits))
      ∧ (∀ fault,
          encodeMicros span = .error fault → ∃ refusal, encodeCalendar span = .error refusal)
      ∧ decodeCalendar? interval = some (decodeCalendar interval)
      ∧ (decodeCalendar interval).nanos
        = interval.micros.toInt * 1000
          + (interval.days.toInt + 30 * interval.months.toInt) * 86_400_000_000_000 := by
  intro fits
  refine ⟨?_, ?_, ?_, decodeCalendar?_eq_some interval, nanos_decodeCalendar interval⟩
  · intro stored encoded
    obtain ⟨_, _, months, days⟩ := encodeCalendar_eq_ok_iff.mp encoded
    have micros := encodeMicros_of_encodeCalendar encoded
    have back := decodeMicros_of_encodeMicros micros
    exact ⟨months, days, micros, (decodeCalendar_of_micros months days).trans back, back⟩
  · intro micros encoded
    simp only [encodeCalendar_eq_error_iff encoded, exists_and_left, exists_eq, and_true]
    rw [← Bool.not_eq_true, fitsWord_iff]
  · intro fault refused
    cases encoded : encodeCalendar span with
    | error refusal => exact ⟨refusal, rfl⟩
    | ok stored => cases refused.symm.trans (encodeMicros_of_encodeCalendar encoded)

-- The greatest interval, of more than 182 million years.
example
    : (decodeCalendar ⟨Int32.maxValue, Int32.maxValue, Int64.maxValue⟩).nanos
      = 5_761_043_572_161_654_775_807_000 := by
  decide

end KeyVault.Interval
