import BatchSync.Calendar.Basic
import Mathlib.Tactic.IntervalCases

/-!
# Days and dates

Days are counted from 1 January 1970, dates in years that begin on 1 January. Between them stand years
that begin on 1 March, so that a leap day is the last day of its year, and eras of 400 such years.

1. `exists_eraPlace` finds a day of an era in its century, its group of four years and its year, and
   `EraPlace.yearOfEra_eq` says that this is the year that is computed from it.
2. `exists_ofMarchYear` puts the days of all eras together. Every day is a date (`Date.isValid_ofEpochDay`),
   the one of that day (`Date.epochDay_ofEpochDay`).
3. `Date.le_year_iff` bounds years by days.
-/

namespace BatchSync.Calendar

/-! ## Days of an era -/

/-- The place of a day in an era: in a century of 36524 days, in a group of four years of 1461 days, in
a year of 365 days, counted from the start of each. The last year of a group has another day, unless the
group is the last one of any century but the last. -/
structure EraPlace (dayOfEra century group year day : Int) : Prop where
  eq : dayOfEra = 36524 * century + 1461 * group + 365 * year + day
  century_mem : 0 ≤ century ∧ century ≤ 3
  group_mem : 0 ≤ group ∧ group ≤ 24
  year_mem : 0 ≤ year ∧ year ≤ 3
  day_mem : 0 ≤ day ∧ day ≤ 365
  leapDay : day = 365 → year = 3 ∧ (group = 24 → century = 3)

/-- Every day of an era has a place. -/
theorem exists_eraPlace {dayOfEra : Int} (nonneg : 0 ≤ dayOfEra) (lt : dayOfEra < 146097) :
    ∃ century group year day, EraPlace dayOfEra century group year day := by
  -- the last day of the era is the only one that an even division puts into a fifth century
  obtain ⟨century, rest, century_mem, eq, rest_nonneg, rest_le, last⟩ : ∃ century rest : Int,
      (0 ≤ century ∧ century ≤ 3) ∧ dayOfEra = 36524 * century + rest ∧ 0 ≤ rest ∧ rest ≤ 36524 ∧
        (rest = 36524 → century = 3) :=
    ⟨min 3 (dayOfEra / 36524), dayOfEra - 36524 * min 3 (dayOfEra / 36524),
      by omega, by omega, by omega, by omega, by omega⟩
  exact ⟨century, rest / 1461, min 3 (rest % 1461 / 365),
    rest % 1461 - 365 * min 3 (rest % 1461 / 365),
    { eq := by omega
      century_mem := century_mem
      group_mem := by omega
      year_mem := by omega
      day_mem := by omega
      leapDay := by omega }⟩

/-- The year of an era that a day lies in. -/
def yearOfEra (dayOfEra : Int) : Int :=
  (dayOfEra - dayOfEra / 1460 + dayOfEra / 36524 - dayOfEra / 146096) / 365

variable {dayOfEra century group year day : Int}

/-- The year is the one of the place: each correction takes away a leap day that went before. -/
theorem EraPlace.yearOfEra_eq (place : EraPlace dayOfEra century group year day) :
    yearOfEra dayOfEra = 100 * century + 4 * group + year := by
  obtain ⟨eq, century_mem, group_mem, year_mem, day_mem, leapDay⟩ := place
  have leap_days : dayOfEra / 1460 = 25 * century + group ∨
      (dayOfEra / 1460 = 25 * century + group + 1 ∧ year = 3 ∧ 365 ≤ 24 * century + group + day) := by
    omega
  have centuries : (dayOfEra / 36524 = century ∧ dayOfEra / 146096 = 0) ∨
      (dayOfEra / 36524 = 4 ∧ dayOfEra / 146096 = 1 ∧ century = 3 ∧ group = 24 ∧ year = 3 ∧
        day = 365) := by
    omega
  unfold yearOfEra
  omega

/-! ## Years that begin on 1 March -/

/-- Days from the start of the eras to a year. -/
def marchDay (year : Int) : Int :=
  year / 400 * 146097 + (year % 400 * 365 + year % 400 / 4 - year % 400 / 100)

/-- The date of a day of a year that begins on 1 March. -/
def ofMarchYear (year dayOfYear : Int) : Date :=
  let monthFromMarch := (5 * dayOfYear + 2) / 153
  let day := dayOfYear - (153 * monthFromMarch + 2) / 5 + 1
  let month := if monthFromMarch < 10 then monthFromMarch + 3 else monthFromMarch - 9
  ⟨if month ≤ 2 then year + 1 else year, month.toNat, day.toNat⟩

theorem ofEpochDay_eq (days : Int) :
    Date.ofEpochDay days =
      ofMarchYear (yearOfEra ((days + 719468) % 146097) + (days + 719468) / 146097 * 400)
        ((days + 719468) % 146097 - (365 * yearOfEra ((days + 719468) % 146097) +
          yearOfEra ((days + 719468) % 146097) / 4 - yearOfEra ((days + 719468) % 146097) / 100)) :=
  rfl

theorem marchDay_add (nonneg : 0 ≤ year) (lt : year < 400) (era : Int) :
    marchDay (year + era * 400) = era * 146097 + (year * 365 + year / 4 - year / 100) := by
  unfold marchDay
  rw [Int.add_mul_ediv_right year era (by decide), Int.add_mul_emod_self_right,
    Int.ediv_eq_zero_of_lt nonneg lt, Int.emod_eq_of_lt nonneg lt, Int.zero_add]

/-- Every day lies in a year that begins on 1 March. Only in a leap year is it the 366th. -/
theorem exists_ofMarchYear (days : Int) :
    ∃ year dayOfYear : Int, Date.ofEpochDay days = ofMarchYear year dayOfYear ∧
      marchDay year + dayOfYear = days + 719468 ∧ 0 ≤ dayOfYear ∧ dayOfYear ≤ 365 ∧
        (dayOfYear = 365 → isLeapYear (year + 1) = true) := by
  obtain ⟨century, group, year, day, place⟩ := exists_eraPlace
    (Int.emod_nonneg (days + 719468) (by decide : (146097 : Int) ≠ 0))
    (Int.emod_lt_of_pos (days + 719468) (by decide : (0 : Int) < 146097))
  have year_eq := place.yearOfEra_eq
  obtain ⟨eq, century_mem, group_mem, year_mem, day_mem, leapDay⟩ := place
  have fours : (100 * century + 4 * group + year) / 4 = 25 * century + group := by omega
  have hundreds : (100 * century + 4 * group + year) / 100 = century := by omega
  refine ⟨100 * century + 4 * group + year + (days + 719468) / 146097 * 400, day, ?_, ?_, day_mem.1,
    day_mem.2, fun last => ?_⟩
  · rw [ofEpochDay_eq, year_eq, fours, hundreds]
    congr 1
    omega
  · rw [marchDay_add (by omega) (by omega), fours, hundreds]
    omega
  · obtain ⟨last_year, last_century⟩ := leapDay last
    unfold isLeapYear
    simp only [Bool.and_eq_true, Bool.or_eq_true, beq_iff_eq, bne_iff_ne]
    omega

/-- A date that there is. -/
structure Date.IsValid (d : Date) : Prop where
  month_mem : 1 ≤ d.month ∧ d.month ≤ 12
  day_mem : 1 ≤ d.day ∧ d.day ≤ daysInMonth d.year d.month

/-- The year of a date when years begin on 1 March. -/
def Date.marchYear (d : Date) : Int := if 2 < d.month then d.year else d.year - 1

theorem Date.epochDay_eq (d : Date) :
    d.epochDay = marchDay d.marchYear + d.dayOfMarchYear - 719468 := by
  simp only [Date.epochDay, marchDay, Date.marchYear]
  omega

variable {dayOfYear : Int}

theorem marchYear_ofMarchYear (nonneg : 0 ≤ dayOfYear) (le : dayOfYear ≤ 365) :
    (ofMarchYear year dayOfYear).marchYear = year := by
  simp only [ofMarchYear, Date.marchYear]
  split <;> split <;> omega

theorem dayOfMarchYear_ofMarchYear (nonneg : 0 ≤ dayOfYear) (le : dayOfYear ≤ 365) :
    (ofMarchYear year dayOfYear).dayOfMarchYear = dayOfYear := by
  simp only [ofMarchYear, Date.dayOfMarchYear]
  split <;> split <;> omega

/-- The days of a month are as many as it has, whether the year begins on 1 March or on 1 January. -/
theorem isValid_ofMarchYear (nonneg : 0 ≤ dayOfYear) (le : dayOfYear ≤ 365)
    (leap : dayOfYear = 365 → isLeapYear (year + 1) = true) :
    (ofMarchYear year dayOfYear).IsValid := by
  simp only [ofMarchYear]
  generalize months : (5 * dayOfYear + 2) / 153 = month
  have month_nonneg : 0 ≤ month := by omega
  have month_le : month ≤ 11 := by omega
  refine ⟨by dsimp only; omega, by dsimp only; omega, ?_⟩
  by_cases february : month = 11
  · subst february
    cases leapYear : isLeapYear (year + 1) with
    | true =>
      simp [daysInMonth, leapYear]
      omega
    | false =>
      have ne : dayOfYear ≠ 365 := fun eq => by simp [leap eq] at leapYear
      simp [daysInMonth, leapYear]
      omega
  · have month_le : month ≤ 10 := by omega
    interval_cases month <;> simp [daysInMonth] <;> omega

/-! ## Days as dates -/

namespace Date

/-- Every day is a date. -/
theorem isValid_ofEpochDay (days : Int) : (ofEpochDay days).IsValid := by
  obtain ⟨year, dayOfYear, eq, -, nonneg, le, leap⟩ := exists_ofMarchYear days
  rw [eq]
  exact isValid_ofMarchYear nonneg le leap

/-- The date of a day is on that day. -/
theorem epochDay_ofEpochDay (days : Int) : (ofEpochDay days).epochDay = days := by
  obtain ⟨year, dayOfYear, eq, count, nonneg, le, -⟩ := exists_ofMarchYear days
  rw [eq, epochDay_eq, marchYear_ofMarchYear nonneg le, dayOfMarchYear_ofMarchYear nonneg le]
  omega

/-! ## Years -/

/-- The first day of a year. -/
def newYear (year : Int) : Int := (⟨year, 1, 1⟩ : Date).epochDay

theorem marchDay_eq (year : Int) :
    marchDay year = 365 * year + year / 4 - year / 100 + year / 400 := by
  unfold marchDay
  omega

theorem newYear_eq (year : Int) : newYear year = marchDay (year - 1) + 306 - 719468 := by
  rw [newYear, epochDay_eq]
  simp [marchYear, dayOfMarchYear]

theorem newYear_mono {a b : Int} (le : a ≤ b) : newYear a ≤ newYear b := by
  simp only [newYear_eq, marchDay_eq]
  omega

theorem daysInMonth_le (year : Int) (month : Nat) : daysInMonth year month ≤ 31 := by
  unfold daysInMonth
  split <;> split <;> omega

variable {d : Date}

/-- A date lies in its year. -/
theorem IsValid.mem_year (valid : d.IsValid) :
    newYear d.year ≤ d.epochDay ∧ d.epochDay < newYear (d.year + 1) := by
  obtain ⟨⟨month_pos, month_le⟩, day_pos, day_le⟩ := valid
  have day_le := Nat.le_trans day_le (daysInMonth_le d.year d.month)
  rw [epochDay_eq]
  simp only [newYear_eq, marchDay_eq, marchYear, dayOfMarchYear]
  split <;> omega

/-- The days of the years from one on are those from its first day on. -/
theorem le_year_iff (year days : Int) : year ≤ (ofEpochDay days).year ↔ newYear year ≤ days := by
  have mem := (isValid_ofEpochDay days).mem_year
  rw [epochDay_ofEpochDay] at mem
  constructor
  · intro le
    exact Int.le_trans (newYear_mono le) mem.1
  · intro le
    by_contra lt
    have := newYear_mono (show (ofEpochDay days).year + 1 ≤ year by omega)
    omega

end Date

end BatchSync.Calendar
