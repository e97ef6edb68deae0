import KeyVault.Time.Date
/-!
Later days have later dates. A day is placed in its cycle, in its year of the cycle and in its
month of the year, and each of these places keeps the order of days.
-/

namespace KeyVault.Date

/-- A date is before another one by its year, or else by its month, or else by its day. -/
def Before (first later : Date) : Prop :=
  first.year < later.year
  ∨ first.year = later.year
    ∧ (first.month < later.month ∨ first.month = later.month ∧ first.day < later.day)

-----------------------------------------------------------------------------------------
-- Years of a cycle
-----------------------------------------------------------------------------------------

/-- The day of a cycle on which a year of the cycle starts. -/
def startOfYear (year : Nat) : Nat :=
  365 * year + year / 4 - year / 100

/-- A later day of a cycle is in no earlier year, since the leap days that are taken out are
fewer than the days.
-/
theorem yearOfCycle_le_yearOfCycle {first later : Nat} (ordered : first ≤ later)
    (within : later < 146097)
    : yearOfCycle first ≤ yearOfCycle later := by
  unfold yearOfCycle
  apply Nat.div_le_div_right
  have leaps : later / 1460 ≤ first / 1460 + (later - first) := by omega
  have centuries : first / 36524 ≤ later / 36524 := Nat.div_le_div_right ordered
  have fewer : first / 1460 ≤ first := Nat.div_le_self ..
  rcases Nat.lt_or_eq_of_le (Nat.le_of_lt_succ within) with before | rfl
  · have unfinished : later / 146096 = 0 := Nat.div_eq_of_lt before
    have unfinished' : first / 146096 = 0 := Nat.div_eq_of_lt (by omega)
    omega
  · rcases Nat.lt_or_eq_of_le ordered with before | rfl
    · have unfinished : first / 146096 = 0 := Nat.div_eq_of_lt before
      omega
    · exact Nat.le_refl _

/-- Every year of the cycle has the day on which it starts and not the one before it. -/
theorem yearOfCycle_startOfYear
    : ∀ year < 400,
        yearOfCycle (startOfYear year) = year
        ∧ (year = 0 ∨ yearOfCycle (startOfYear year - 1) < year) := by
  decide +kernel

/-- A day of a cycle is in one of its years, not before that year starts and not after it
ends.
-/
theorem startOfYear_yearOfCycle {day : Nat} (within : day < 146097)
    : yearOfCycle day < 400
      ∧ startOfYear (yearOfCycle day) ≤ day
      ∧ day < startOfYear (yearOfCycle day) + 366 := by
  have last : yearOfCycle day ≤ yearOfCycle 146096 :=
    yearOfCycle_le_yearOfCycle (Nat.le_of_lt_succ within) (by decide)
  have year : yearOfCycle day < 400 := Nat.lt_succ_of_le last
  have start : startOfYear (yearOfCycle day) ≤ 146097 := by
    unfold startOfYear
    omega
  refine ⟨year, ?_, ?_⟩
  · refine Nat.le_of_not_lt fun early => ?_
    rcases (yearOfCycle_startOfYear _ year).2 with first | before
    · rw [first] at early
      exact Nat.not_lt_zero _ early
    · have earlier : yearOfCycle day ≤ yearOfCycle (startOfYear (yearOfCycle day) - 1) :=
        yearOfCycle_le_yearOfCycle (by omega) (by omega)
      exact Nat.not_lt_of_le earlier before
  · refine Nat.lt_of_not_le fun late => ?_
    rcases Nat.lt_or_ge (yearOfCycle day + 1) 400 with next | final
    · have length : startOfYear (yearOfCycle day + 1) ≤ startOfYear (yearOfCycle day) + 366 := by
        unfold startOfYear
        omega
      have later : yearOfCycle (startOfYear (yearOfCycle day + 1)) ≤ yearOfCycle day :=
        yearOfCycle_le_yearOfCycle (Nat.le_trans length late) within
      rw [(yearOfCycle_startOfYear _ next).1] at later
      exact Nat.not_succ_le_self _ later
    · have same : yearOfCycle day = 399 := by omega
      rw [same] at late
      exact absurd within (Nat.not_lt_of_le late)

-----------------------------------------------------------------------------------------
-- Days of a year and of a month
-----------------------------------------------------------------------------------------

theorem dayOfYear_le {day : Nat} (within : day < 146097) : dayOfYear day ≤ 365 := by
  have bounds := startOfYear_yearOfCycle within
  unfold startOfYear at bounds
  unfold dayOfYear
  omega

/-- Of two days of one year of a cycle the later one is the later day of the year. -/
theorem dayOfYear_lt_dayOfYear {first later : Nat} (ordered : first < later)
    (within : later < 146097)
    (same : yearOfCycle first = yearOfCycle later)
    : dayOfYear first < dayOfYear later := by
  have start := (startOfYear_yearOfCycle (Nat.lt_trans ordered within)).2.1
  unfold startOfYear at start
  unfold dayOfYear
  rw [← same]
  omega

/-- A month has at most 31 days, and starts no later than each of them. -/
theorem monthFromMarch_bounds {ordinal : Nat} (within : ordinal ≤ 365)
    : monthFromMarch ordinal ≤ 11
      ∧ (153 * monthFromMarch ordinal + 2) / 5 ≤ ordinal
      ∧ ordinal ≤ (153 * monthFromMarch ordinal + 2) / 5 + 30 := by
  unfold monthFromMarch
  omega

-----------------------------------------------------------------------------------------
-- Days of all cycles
-----------------------------------------------------------------------------------------

/-- The day of its cycle that a day is. -/
def dayOfCycle (days : Int) : Nat :=
  ((days + epochShift) % cycle).toNat

/-- The year that a day is in, counted from March. -/
def marchYear (days : Int) : Int :=
  (days + epochShift) / cycle * 400 + yearOfCycle (dayOfCycle days)

/-- The day of that year that a day is. -/
def ordinal (days : Int) : Nat :=
  dayOfYear (dayOfCycle days)

theorem dayOfCycle_lt (days : Int) : dayOfCycle days < 146097 := by
  unfold dayOfCycle cycle
  omega

theorem ordinal_le (days : Int) : ordinal days ≤ 365 :=
  dayOfYear_le (dayOfCycle_lt days)

/-- A later day is in a later year, or is a later day of the same year. -/
theorem marchYear_lt_or_ordinal_lt {first later : Int} (ordered : first < later)
    : marchYear first < marchYear later
      ∨ marchYear first = marchYear later ∧ ordinal first < ordinal later := by
  have cycles
      : (first + epochShift) / cycle < (later + epochShift) / cycle
        ∨ (first + epochShift) / cycle = (later + epochShift) / cycle
          ∧ dayOfCycle first < dayOfCycle later := by
    unfold dayOfCycle cycle
    omega
  have year := (startOfYear_yearOfCycle (dayOfCycle_lt first)).1
  unfold marchYear ordinal
  rcases cycles with cycles | ⟨same, days⟩
  · left
    omega
  · have years := yearOfCycle_le_yearOfCycle (Nat.le_of_lt days) (dayOfCycle_lt later)
    rcases Nat.lt_or_eq_of_le years with before | together
    · left
      omega
    · right
      exact ⟨by omega, dayOfYear_lt_dayOfYear days (dayOfCycle_lt later) together⟩

/-- The months of a date are counted on from March, and its days from the start of the month. -/
theorem ofDays_bounds (days : Int)
    : let month := monthFromMarch (ordinal days)
      (ofDays days).year * 12 + (ofDays days).month = marchYear days * 12 + month + 3
      ∧ 1 ≤ (ofDays days).month
      ∧ (ofDays days).month ≤ 12
      ∧ (ofDays days).day = ordinal days - (153 * month + 2) / 5 + 1
      ∧ (ofDays days).day ≤ 31 := by
  intro month
  have bounds := monthFromMarch_bounds (ordinal_le days)
  have year
      : (ofDays days).year = if month < 10 then marchYear days else marchYear days + 1 := rfl
  have number : (ofDays days).month = if month < 10 then month + 3 else month - 9 := rfl
  have day : (ofDays days).day = ordinal days - (153 * month + 2) / 5 + 1 := rfl
  rw [year, number, day]
  split <;> omega

/-- The date of a later day is later. -/
theorem before_ofDays {first later : Int} (ordered : first < later)
    : (ofDays first).Before (ofDays later) := by
  obtain ⟨months, positive, most, day, _⟩ := ofDays_bounds first
  obtain ⟨months', positive', most', day', _⟩ := ofDays_bounds later
  obtain ⟨least, start, _⟩ := monthFromMarch_bounds (ordinal_le first)
  obtain ⟨least', start', _⟩ := monthFromMarch_bounds (ordinal_le later)
  unfold Before
  rcases marchYear_lt_or_ordinal_lt ordered with years | ⟨same, ordinals⟩
  · omega
  · have order : monthFromMarch (ordinal first) ≤ monthFromMarch (ordinal later) := by
      unfold monthFromMarch
      omega
    rcases Nat.lt_or_eq_of_le order with earlier | together
    · omega
    · rw [together] at start months day
      omega

/-- No two days have one date, since one of them is before the other. -/
theorem ofDays_injective {first later : Int} (same : ofDays first = ofDays later)
    : first = later := by
  have apart {first later : Int} (ordered : first < later) : ofDays first ≠ ofDays later := by
    intro same
    have before := same ▸ before_ofDays ordered
    unfold Before at before
    omega
  rcases Int.lt_trichotomy first later with ordered | equal | ordered
  · exact absurd same (apart ordered)
  · exact equal
  · exact absurd same.symm (apart ordered)

end KeyVault.Date
