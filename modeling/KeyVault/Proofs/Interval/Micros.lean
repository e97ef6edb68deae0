import KeyVault.Interval
/-!
Which spans a signed 64-bit number of microseconds holds. Such a span is stored and comes
back; every other one is refused, and none is rounded.
-/

namespace KeyVault

/-- A whole number of microseconds that fits a signed 64-bit word. -/
def Span.WholeMicros (span : Span) : Prop :=
  span.nanos % 1000 = 0
  ∧ Int64.minValue.toInt ≤ span.nanos / 1000
  ∧ span.nanos / 1000 ≤ Int64.maxValue.toInt

instance (span : Span) : Decidable span.WholeMicros :=
  inferInstanceAs (Decidable (_ ∧ _ ∧ _))

namespace Span

/-- Spans are equal when their nanoseconds are. -/
theorem eq_of_nanos {first second : Span} (same : first.nanos = second.nanos)
    : first = second := by
  cases first
  cases second
  cases same
  rfl

/-- A span is the one of its nanoseconds. -/
theorem ofNanos?_eq_some_iff {nanos : Int} {span : Span}
    : ofNanos? nanos = some span ↔ span.nanos = nanos := by
  unfold ofNanos?
  by_cases within : nanos.natAbs ≤ limit
  · rw [dif_pos within, Option.some.injEq]
    constructor
    · rintro rfl
      rfl
    · exact fun same => eq_of_nanos same.symm
  · rw [dif_neg within]
    refine ⟨nofun, fun same => absurd ?_ within⟩
    exact same ▸ span.bounded

end Span

namespace Interval

-----------------------------------------------------------------------------------------
-- Words
-----------------------------------------------------------------------------------------

/-- What fits a word is between its bounds. -/
theorem fitsWord_iff (n : Int)
    : fitsWord n = true ↔ Int64.minValue.toInt ≤ n ∧ n ≤ Int64.maxValue.toInt := by
  simp [fitsWord]

theorem fitsWord_toInt (word : Int64) : fitsWord word.toInt = true :=
  (fitsWord_iff _).mpr ⟨word.minValue_le_toInt, word.toInt_le⟩

/-- What fits a word is the value of that word. -/
theorem toInt_ofInt_of_fits {n : Int} (fits : fitsWord n = true) : (Int64.ofInt n).toInt = n := by
  have minimum : Int64.minValue.toInt = -9223372036854775808 := by decide
  have maximum : Int64.maxValue.toInt = 9223372036854775807 := by decide
  obtain ⟨least, greatest⟩ := (fitsWord_iff n).mp fits
  exact Int64.toInt_ofInt_of_le (by omega) (by omega)

-----------------------------------------------------------------------------------------
-- What is stored and what is refused
-----------------------------------------------------------------------------------------

/-- A span is stored as the number of microseconds that it is. -/
theorem encodeMicros_eq_ok_iff {span : Span} {micros : Int64}
    : encodeMicros span = .ok micros ↔ span.nanos = micros.toInt * 1000 := by
  constructor
  · intro encoded
    simp only [encodeMicros] at encoded
    by_cases fits : fitsWord (span.nanos.tdiv 1000) = true
    · rw [if_pos fits] at encoded
      by_cases restored : span.nanos.tdiv 1000 * 1000 = span.nanos
      · rw [if_pos restored] at encoded
        cases encoded
        rw [toInt_ofInt_of_fits fits, restored]
      · rw [if_neg restored] at encoded
        cases encoded
    · rw [if_neg fits] at encoded
      cases encoded
  · intro same
    have whole : (micros.toInt * 1000).tdiv 1000 = micros.toInt :=
      Int.mul_tdiv_cancel _ (by decide)
    simp only [encodeMicros, same, whole, fitsWord_toInt, if_true, Int64.ofInt_toInt]

/-- A span is refused for its length first, and only then for a fraction of a microsecond. -/
theorem encodeMicros_eq_error_iff {span : Span} {fault : Fault}
    : encodeMicros span = .error fault
      ↔ fitsWord (span.nanos.tdiv 1000) = false ∧ fault = .tooLong span
        ∨ fitsWord (span.nanos.tdiv 1000) = true
          ∧ span.nanos % 1000 ≠ 0
          ∧ fault = .tooFine span := by
  have restored : span.nanos.tdiv 1000 * 1000 = span.nanos ↔ span.nanos % 1000 = 0 :=
    ⟨fun restored => by omega, fun fine => Int.tdiv_mul_cancel (Int.dvd_of_emod_eq_zero fine)⟩
  simp only [encodeMicros, restored]
  cases fitsWord (span.nanos.tdiv 1000) with
  | false => simp [eq_comm]
  | true =>
    by_cases fine : span.nanos % 1000 = 0
    · simp [fine]
    · simp [fine, eq_comm]

/-- The span of a stored number of microseconds is the one that is stored as it. -/
theorem encodeMicros_decodeMicros (micros : Int64)
    : encodeMicros (decodeMicros micros) = .ok micros :=
  encodeMicros_eq_ok_iff.mpr rfl

/-- What is stored comes back. -/
theorem decodeMicros_of_encodeMicros {span : Span} {micros : Int64}
    (encoded : encodeMicros span = .ok micros)
    : decodeMicros micros = span :=
  Span.eq_of_nanos (encodeMicros_eq_ok_iff.mp encoded).symm

/-- A whole number of microseconds is stored as that number and comes back as the span. -/
theorem encodeMicros_of_whole {span : Span} (whole : span.WholeMicros)
    : ∃ micros, encodeMicros span = .ok micros ∧ decodeMicros micros = span := by
  obtain ⟨fine, least, greatest⟩ := whole
  have fits : fitsWord (span.nanos / 1000) = true := (fitsWord_iff _).mpr ⟨least, greatest⟩
  have encoded : encodeMicros span = .ok (.ofInt (span.nanos / 1000)) := by
    rw [encodeMicros_eq_ok_iff, toInt_ofInt_of_fits fits]
    omega
  exact ⟨_, encoded, decodeMicros_of_encodeMicros encoded⟩

/-- Any other span is refused. -/
theorem encodeMicros_of_not_whole {span : Span} (broken : ¬ span.WholeMicros)
    : ∃ fault, encodeMicros span = .error fault := by
  cases encoded : encodeMicros span with
  | error fault => exact ⟨fault, rfl⟩
  | ok micros =>
    -- A span that is stored is as many microseconds as the word, which are whole.
    have same := encodeMicros_eq_ok_iff.mp encoded
    have divided : span.nanos / 1000 = micros.toInt := by omega
    refine absurd ⟨by omega, ?_⟩ broken
    rw [divided]
    exact (fitsWord_iff _).mp (fitsWord_toInt micros)

/-- A number of microseconds stores spans exactly. A span is stored as a signed 64-bit number
when it is exactly that many microseconds, and then it comes back. Any other span is refused:
as too long when its microseconds, with the fraction cut off toward zero, do not fit, and as
too fine otherwise. Every stored number is that of a span, which is stored as it again.
-/
theorem micros_store_spans_exactly (span : Span) (micros : Int64)
    : let whole := span.nanos.tdiv 1000
      let fits := Int64.minValue.toInt ≤ whole ∧ whole ≤ Int64.maxValue.toInt
      (encodeMicros span = .ok micros ↔ span.nanos = micros.toInt * 1000)
      ∧ (encodeMicros span = .ok micros ↔ decodeMicros micros = span)
      ∧ (∀ fault,
          encodeMicros span = .error fault
          ↔ ¬ fits ∧ fault = .tooLong span
            ∨ fits ∧ (∀ n, span.nanos ≠ n * 1000) ∧ fault = .tooFine span)
      ∧ Span.ofNanos? (micros.toInt * 1000) = some (decodeMicros micros)
      ∧ encodeMicros (decodeMicros micros) = .ok micros := by
  intro whole fits
  have restores : encodeMicros span = .ok micros ↔ decodeMicros micros = span :=
    ⟨decodeMicros_of_encodeMicros, fun restored => restored ▸ encodeMicros_decodeMicros micros⟩
  refine ⟨encodeMicros_eq_ok_iff, restores, ?_, Span.ofNanos?_eq_some_iff.mpr rfl,
    encodeMicros_decodeMicros micros⟩
  intro fault
  have broken : span.nanos % 1000 ≠ 0 ↔ ∀ n, span.nanos ≠ n * 1000 := by
    constructor
    · intro fine n same
      exact fine (by omega)
    · intro fine divides
      exact fine (span.nanos / 1000) (by omega)
  rw [encodeMicros_eq_error_iff, ← Bool.not_eq_true, fitsWord_iff, broken]

-- A fraction is cut off toward zero, so that one nanosecond beyond either end is only too fine.
example
    : let beyond : Span := ⟨-9_223_372_036_854_775_808_001, by decide⟩
      encodeMicros beyond = .error (.tooFine beyond) :=
  rfl

end Interval

end KeyVault
