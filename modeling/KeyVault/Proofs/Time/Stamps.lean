import KeyVault.Time.Instant
import KeyVault.Proofs.Time.Calendar
import KeyVault.Proofs.Decimal.Digits
/-!
Stored instants whose years have four digits are in the order of their texts. The fields of a
text have fixed widths down to the second. The fraction after it has as few places as it needs,
and the zone behind it starts with a mark that stands before the point and before every digit.
No two instants have one text, whatever their years; but where a year has more digits, the
later text may be that of the earlier instant.
-/

namespace KeyVault.Instant

open Decimal

/-- The date of an instant. -/
def date (instant : Instant) : Date :=
  Date.ofDays (instant.seconds / 86400)

/-- The leap seconds that an instant is in: one or none. -/
def leap (instant : Instant) : Nat :=
  instant.nanos / 1_000_000_000

/-- The year of an instant is written with four digits and no sign. -/
def FourDigitYear (instant : Instant) : Prop :=
  0 ≤ instant.date.year ∧ instant.date.year ≤ 9999

instance (instant : Instant) : Decidable instant.FourDigitYear :=
  inferInstanceAs (Decidable (_ ∧ _))

-----------------------------------------------------------------------------------------
-- The order of instants
-----------------------------------------------------------------------------------------

theorem eq_of_parts {first later : Instant} (seconds : first.seconds = later.seconds)
    (nanos : first.nanos = later.nanos)
    : first = later := by
  cases first
  cases later
  cases seconds
  cases nanos
  rfl

theorem not_lt {first later : Instant} : ¬ later < first ↔ first ≤ later := by
  change ¬ (_ ∨ _ ∧ _) ↔ _ ∨ _ ∧ _
  omega

theorem lt_or_eq_of_le {first later : Instant} (order : first ≤ later)
    : first < later ∨ first = later := by
  rcases order with less | ⟨seconds, nanos⟩
  · exact .inl (.inl less)
  · rcases Nat.lt_or_eq_of_le nanos with less | nanos
    · exact .inl (.inr ⟨seconds, less⟩)
    · exact .inr (eq_of_parts seconds nanos)

-----------------------------------------------------------------------------------------
-- Fractions of a second
-----------------------------------------------------------------------------------------

/-- The places of a fraction are exact. -/
theorem fractionText_eq_places {nanos : Nat} (positive : 0 < nanos) (within : nanos < 10 ^ 9)
    : ∃ width n,
        fractionText nanos = '.' :: lastDigits width n
        ∧ n < 10 ^ width
        ∧ n * 10 ^ 9 = nanos * 10 ^ width := by
  unfold fractionText
  rw [if_neg (Nat.ne_of_gt positive)]
  split
  · refine ⟨3, nanos / 1_000_000, ?_, by omega, by omega⟩
    rw [padded_eq_lastDigits (by decide) (by omega)]
  · split
    · refine ⟨6, nanos / 1_000, ?_, by omega, by omega⟩
      rw [padded_eq_lastDigits (by decide) (by omega)]
    · refine ⟨9, nanos, ?_, within, rfl⟩
      rw [padded_eq_lastDigits (by decide) within]

/-- Fractions with the mark of the zone behind them are in the order of their values. -/
theorem fractionText_lt_fractionText {first later : Nat} (ordered : first < later)
    (within : later < 10 ^ 9)
    (zone : List Char)
    : fractionText first ++ '+' :: zone < fractionText later ++ '+' :: zone := by
  obtain ⟨more, n, text, fits, exact⟩ :=
    fractionText_eq_places (Nat.zero_lt_of_lt ordered) within
  rw [text]
  rcases Nat.eq_zero_or_pos first with rfl | positive
  · exact List.cons_lt_cons_iff.mpr (.inl (by decide))
  · obtain ⟨width, m, spelled, _, scaled⟩ :=
      fractionText_eq_places positive (Nat.lt_trans ordered within)
    rw [spelled]
    refine List.cons_lt_cons_iff.mpr (.inr ⟨rfl, places_lt_places fits ?_ zone⟩)
    apply Nat.lt_of_mul_lt_mul_right (a := 10 ^ 9)
    calc m * 10 ^ more * 10 ^ 9
        = first * (10 ^ width * 10 ^ more) := by
          rw [Nat.mul_right_comm, scaled, Nat.mul_assoc]
      _ < later * (10 ^ width * 10 ^ more) :=
          Nat.mul_lt_mul_of_pos_right ordered
            (Nat.mul_pos (Nat.pow_pos (by decide)) (Nat.pow_pos (by decide)))
      _ = n * 10 ^ width * 10 ^ 9 := by
          rw [Nat.mul_comm (10 ^ width), ← Nat.mul_assoc, ← exact, Nat.mul_right_comm]

-----------------------------------------------------------------------------------------
-- Fields of a text
-----------------------------------------------------------------------------------------

/-- The fields of a time of day and of the leap seconds in it, with what follows them. -/
def clockFields (second leap : Nat) (rest : List Char) : List Char :=
  lastDigits 2 (second / 3600) ++ ':' :: (lastDigits 2 (second / 60 % 60)
    ++ ':' :: (lastDigits 2 (second % 60 + leap) ++ rest))

/-- There is one leap second at most, and it is at the end of a minute. -/
def EndsMinute (second leap : Nat) : Prop :=
  leap = 0 ∨ leap = 1 ∧ second % 60 = 59

/-- The fields of a date, with what follows them. -/
def dateFields (date : Date) (rest : List Char) : List Char :=
  lastDigits 4 date.year.toNat ++ '-' :: (lastDigits 2 date.month
    ++ '-' :: (lastDigits 2 date.day ++ rest))

/-- The fields of a date behind its year, with what follows them. -/
def dayFields (date : Date) (rest : List Char) : List Char :=
  lastDigits 2 date.month ++ '-' :: (lastDigits 2 date.day ++ rest)

theorem secondOfDay_lt (instant : Instant) : instant.secondOfDay < 86400 := by
  unfold secondOfDay
  omega

theorem endsMinute_leap (instant : Instant) : EndsMinute instant.secondOfDay instant.leap := by
  obtain ⟨_, valid⟩ := instant.valid
  unfold EndsMinute secondOfDay leap
  omega

theorem month_date_le (instant : Instant) : instant.date.month ≤ 12 :=
  (Date.ofDays_bounds _).2.2.1

theorem day_date_le (instant : Instant) : instant.date.day ≤ 31 :=
  (Date.ofDays_bounds _).2.2.2.2

/-- The text of an instant is its year and the fields behind it, each of its width. -/
theorem textIn_eq_year (instant : Instant) (zone : List Char)
    : instant.textIn zone
      = yearText instant.date.year ++ '-' :: dayFields instant.date
          ('T' :: clockFields instant.secondOfDay instant.leap
            (fractionText instant.subsecond ++ zone)) := by
  have second := instant.secondOfDay_lt
  have single : instant.secondOfDay % 60 + instant.leap < 10 ^ 2 := by
    have leap := instant.endsMinute_leap
    unfold EndsMinute at leap
    omega
  have month := instant.month_date_le
  have day := instant.day_date_le
  have two {n : Nat} (fits : n < 10 ^ 2) : lastDigits 2 n = padded 2 n :=
    (padded_eq_lastDigits (by decide) fits).symm
  rw [dayFields, clockFields, two (by omega : instant.date.month < 10 ^ 2),
    two (by omega : instant.date.day < 10 ^ 2),
    two (by omega : instant.secondOfDay / 3600 < 10 ^ 2),
    two (by omega : instant.secondOfDay / 60 % 60 < 10 ^ 2), two single]
  simp only [textIn, date, leap, List.append_assoc, List.cons_append]

/-- A year of four digits is a field of that width. -/
theorem textIn_eq_fields {instant : Instant} (fits : instant.FourDigitYear) (zone : List Char)
    : instant.textIn zone
      = dateFields instant.date
          ('T' :: clockFields instant.secondOfDay instant.leap
            (fractionText instant.subsecond ++ zone)) := by
  obtain ⟨least, most⟩ := fits
  have year : yearText instant.date.year = lastDigits 4 instant.date.year.toNat := by
    rw [yearText, if_pos ⟨least, most⟩, padded_eq_lastDigits (by decide) (by omega)]
  rw [textIn_eq_year, year]
  rfl

-----------------------------------------------------------------------------------------
-- The order of texts
-----------------------------------------------------------------------------------------

/-- Fields with a mark behind them are in the order of their numbers, or else of what follows
the mark.
-/
theorem field_lt_field {width m n : Nat} {mark : Char} {rest more : List Char}
    (fits : n < 10 ^ width)
    (order : m < n ∨ m = n ∧ rest < more)
    : lastDigits width m ++ mark :: rest < lastDigits width n ++ mark :: more := by
  apply lastDigits_append_lt fits
  rcases order with less | ⟨same, less⟩
  · exact .inl less
  · exact .inr ⟨same, List.cons_lt_cons_iff.mpr (.inr ⟨rfl, less⟩)⟩

theorem clockFields_lt_clockFields {first later leap leap' : Nat} {rest more : List Char}
    (ends : EndsMinute first leap)
    (ends' : EndsMinute later leap')
    (within : later < 86400)
    (order : first < later ∨ first = later ∧ (leap < leap' ∨ leap = leap' ∧ rest < more))
    : clockFields first leap rest < clockFields later leap' more := by
  unfold EndsMinute at ends ends'
  have fields
      : first / 3600 < later / 3600
        ∨ first / 3600 = later / 3600
          ∧ (first / 60 % 60 < later / 60 % 60
            ∨ first / 60 % 60 = later / 60 % 60
              ∧ (first % 60 + leap < later % 60 + leap'
                ∨ first % 60 + leap = later % 60 + leap' ∧ rest < more)) := by
    rcases order with less | ⟨rfl, less | ⟨rfl, less⟩⟩
    · omega
    · omega
    · exact .inr ⟨rfl, .inr ⟨rfl, .inr ⟨rfl, less⟩⟩⟩
  refine field_lt_field (by omega) (fields.imp_right fun hour => ⟨hour.1, ?_⟩)
  refine field_lt_field (by omega) (hour.2.imp_right fun minute => ⟨minute.1, ?_⟩)
  exact lastDigits_append_lt (by omega) minute.2

theorem dateFields_lt_dateFields {first later : Date} {rest more : List Char}
    (years : 0 ≤ first.year ∧ later.year ≤ 9999)
    (month : later.month ≤ 12)
    (day : later.day ≤ 31)
    (order : first.Before later ∨ first = later ∧ rest < more)
    : dateFields first rest < dateFields later more := by
  have fields
      : first.year.toNat < later.year.toNat
        ∨ first.year.toNat = later.year.toNat
          ∧ (first.month < later.month
            ∨ first.month = later.month
              ∧ (first.day < later.day ∨ first.day = later.day ∧ rest < more)) := by
    rcases order with (less | ⟨same, less | ⟨same', less⟩⟩) | ⟨rfl, less⟩
    · exact .inl (by omega)
    · exact .inr ⟨congrArg Int.toNat same, .inl less⟩
    · exact .inr ⟨congrArg Int.toNat same, .inr ⟨same', .inl less⟩⟩
    · exact .inr ⟨rfl, .inr ⟨rfl, .inr ⟨rfl, less⟩⟩⟩
  refine field_lt_field (by omega) (fields.imp_right fun year => ⟨year.1, ?_⟩)
  refine field_lt_field (by omega) (year.2.imp_right fun month => ⟨month.1, ?_⟩)
  exact lastDigits_append_lt (by omega) month.2

/-- The later one of two instants in a second is in the leap second, or later in the same one. -/
theorem leap_lt_or_subsecond_lt {first later : Instant} (ordered : first.nanos < later.nanos)
    : first.leap < later.leap
      ∨ first.leap = later.leap ∧ first.subsecond < later.subsecond := by
  unfold leap subsecond
  omega

/-- A later second is on a later date, or later on the same one. -/
theorem date_before_or_secondOfDay_lt {first later : Instant}
    (ordered : first.seconds < later.seconds)
    : first.date.Before later.date
      ∨ first.date = later.date ∧ first.secondOfDay < later.secondOfDay := by
  have days
      : first.seconds / 86400 < later.seconds / 86400
        ∨ first.seconds / 86400 = later.seconds / 86400
          ∧ first.secondOfDay < later.secondOfDay := by
    unfold secondOfDay
    omega
  rcases days with before | ⟨same, less⟩
  · exact .inl (Date.before_ofDays before)
  · exact .inr ⟨congrArg Date.ofDays same, less⟩

/-- The text of a later instant is greater, by the first field in which the two differ. -/
theorem stamp_lt_stamp {first later : Instant} (fits : first.FourDigitYear)
    (fits' : later.FourDigitYear)
    (ordered : first < later)
    : first.stamp < later.stamp := by
  have subsecond : later.subsecond < 10 ^ 9 := by
    unfold Instant.subsecond
    omega
  rw [String.lt_iff_toList_lt, stamp, stamp, String.toList_ofList, String.toList_ofList,
    textIn_eq_fields fits, textIn_eq_fields fits']
  apply dateFields_lt_dateFields ⟨fits.1, fits'.2⟩ later.month_date_le later.day_date_le
  have ends := first.endsMinute_leap
  have ends' := later.endsMinute_leap
  rcases ordered with less | ⟨same, less⟩
  · apply (date_before_or_secondOfDay_lt less).imp_right
    rintro ⟨date, second⟩
    refine ⟨date, List.cons_lt_cons_iff.mpr (.inr ⟨rfl, ?_⟩)⟩
    exact clockFields_lt_clockFields ends ends' later.secondOfDay_lt (.inl second)
  · have date : first.date = later.date := by rw [Instant.date, same]; rfl
    have second : first.secondOfDay = later.secondOfDay := by rw [secondOfDay, same]; rfl
    refine .inr ⟨date, List.cons_lt_cons_iff.mpr (.inr ⟨rfl, ?_⟩)⟩
    apply clockFields_lt_clockFields ends ends' later.secondOfDay_lt
    refine .inr ⟨second, (leap_lt_or_subsecond_lt less).imp_right fun nanos => ⟨nanos.1, ?_⟩⟩
    exact fractionText_lt_fractionText nanos.2 subsecond _

/-- The order of stored texts is the order in time, for years of four digits. -/
theorem stamp_le_stamp_iff {first later : Instant} (fits : first.FourDigitYear)
    (fits' : later.FourDigitYear)
    : first.stamp ≤ later.stamp ↔ first ≤ later := by
  constructor
  · intro texts
    refine not_lt.mp fun before => ?_
    exact String.not_le.mpr (stamp_lt_stamp fits' fits before) texts
  · intro order
    rcases lt_or_eq_of_le order with before | rfl
    · exact String.not_lt.mp (String.lt_asymm (stamp_lt_stamp fits fits' before))
    · exact String.le_refl _

/-- A year of more than four digits is written with a sign, so that its text is less than that of
every year before it that has four.
-/
theorem stamp_lt_stamp_of_long {first later : Instant} (fits : first.FourDigitYear)
    (long : 9999 < later.date.year)
    : later.stamp < first.stamp := by
  have signed : yearText later.date.year = '+' :: padded 4 later.date.year.natAbs := by
    rw [yearText, if_neg (by omega), if_neg (by omega)]
  rw [String.lt_iff_toList_lt, stamp, stamp, String.toList_ofList, String.toList_ofList,
    textIn_eq_fields fits, textIn_eq_year, signed]
  exact plus_lt_lastDigits (by decide) _ _ _

-----------------------------------------------------------------------------------------
-- Different instants have different texts
-----------------------------------------------------------------------------------------

/-- A year is read off a text that starts with it up to a mark, as is what follows the mark. -/
theorem yearText_append_inj {first later : Int} {rest more : List Char}
    (same : yearText first ++ '-' :: rest = yearText later ++ '-' :: more)
    : first = later ∧ rest = more := by
  have mark {year : Int} : (if year < 0 then '-' else '+').isDigit = false := by
    split <;> rfl
  unfold yearText at same
  by_cases plain : 0 ≤ first ∧ first ≤ 9999 <;> by_cases plain' : 0 ≤ later ∧ later ≤ 9999
  · rw [if_pos plain, if_pos plain'] at same
    obtain ⟨digits, follow⟩ := padded_append_inj rfl same
    exact ⟨by omega, follow⟩
  · rw [if_pos plain, if_neg plain'] at same
    exact absurd same (padded_append_ne_cons mark)
  · rw [if_neg plain, if_pos plain'] at same
    exact absurd same.symm (padded_append_ne_cons mark)
  · rw [if_neg plain, if_neg plain', List.cons_append, List.cons_append] at same
    obtain ⟨sign, same⟩ := List.cons.inj same
    obtain ⟨digits, follow⟩ := padded_append_inj rfl same
    refine ⟨?_, follow⟩
    split at sign <;> split at sign
    · omega
    · cases sign
    · cases sign
    · omega

theorem fractionText_append_inj {first later : Nat} (within : first < 10 ^ 9)
    (within' : later < 10 ^ 9) {zone : List Char}
    (same : fractionText first ++ '+' :: zone = fractionText later ++ '+' :: zone)
    : first = later := by
  rcases Nat.lt_trichotomy first later with less | equal | greater
  · exact absurd (same ▸ fractionText_lt_fractionText less within' zone) (List.lt_irrefl _)
  · exact equal
  · exact absurd (same ▸ fractionText_lt_fractionText greater within zone) (List.lt_irrefl _)

theorem dayFields_inj {first later : Date} {rest more : List Char}
    (months : first.month ≤ 12 ∧ later.month ≤ 12)
    (days : first.day ≤ 31 ∧ later.day ≤ 31)
    (same : dayFields first rest = dayFields later more)
    : first.month = later.month ∧ first.day = later.day ∧ rest = more := by
  obtain ⟨month, same⟩ := lastDigits_append_inj (by omega) (by omega) same
  obtain ⟨day, same⟩ :=
    lastDigits_append_inj (by omega) (by omega) (List.cons.inj same).2
  exact ⟨month, day, same⟩

theorem clockFields_inj {first later leap leap' : Nat} {rest more : List Char}
    (ends : EndsMinute first leap) (ends' : EndsMinute later leap')
    (within : first < 86400) (within' : later < 86400)
    (same : clockFields first leap rest = clockFields later leap' more)
    : first = later ∧ leap = leap' ∧ rest = more := by
  unfold EndsMinute at ends ends'
  obtain ⟨hour, same⟩ := lastDigits_append_inj (by omega) (by omega) same
  obtain ⟨minute, same⟩ :=
    lastDigits_append_inj (by omega) (by omega) (List.cons.inj same).2
  obtain ⟨second, same⟩ :=
    lastDigits_append_inj (by omega) (by omega) (List.cons.inj same).2
  exact ⟨by omega, by omega, same⟩

/-- An instant is read off its stored text field by field, whatever its year. -/
theorem stamp_injective {first later : Instant} (same : first.stamp = later.stamp)
    : first = later := by
  have text := String.ofList_injective same
  rw [textIn_eq_year, textIn_eq_year] at text
  obtain ⟨year, text⟩ := yearText_append_inj text
  obtain ⟨month, day, text⟩ :=
    dayFields_inj ⟨first.month_date_le, later.month_date_le⟩
      ⟨first.day_date_le, later.day_date_le⟩ text
  obtain ⟨second, leaps, text⟩ :=
    clockFields_inj first.endsMinute_leap later.endsMinute_leap first.secondOfDay_lt
      later.secondOfDay_lt (List.cons.inj text).2
  have fraction : first.subsecond = later.subsecond :=
    fractionText_append_inj (by unfold subsecond; omega) (by unfold subsecond; omega) text
  have days : first.seconds / 86400 = later.seconds / 86400 := by
    apply Date.ofDays_injective
    show (⟨first.date.year, first.date.month, first.date.day⟩ : Date) = later.date
    rw [year, month, day]
  have seconds : first.seconds = later.seconds := by
    unfold secondOfDay at second
    omega
  have nanos : first.nanos = later.nanos := by
    unfold leap at leaps
    unfold subsecond at fraction
    omega
  exact eq_of_parts seconds nanos

-- Behind equal seconds, the '+' of a whole second is below the '.' of a fraction.
example
    : let whole : Instant := ⟨951_868_799, 0, by decide⟩
      let part : Instant := ⟨951_868_799, 250_000_000, by decide⟩
      let leap : Instant := ⟨951_868_799, 1_250_000_000, by decide⟩
      whole.stamp = "2000-02-29T23:59:59+00:00"
      ∧ part.stamp = "2000-02-29T23:59:59.250+00:00"
      ∧ leap.stamp = "2000-02-29T23:59:60.250+00:00" :=
  ⟨by decide, by decide, by decide⟩

end KeyVault.Instant
