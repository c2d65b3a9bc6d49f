import Stepwise.Time
/-!
Days and dates. A day is told by the era of four hundred years in which it falls, the year of the
era and the day of the year, where years begin in March. From this both its date and the number of
days up to it are read off, and so its date leads back to the day (`daysOfDate_dateOfDays`).
-/

namespace Stepwise.Timestamp

/-- The days of the years of an era before one of them. -/
def daysBefore (year : Int) : Int := 365 * year + year / 4 - year / 100 + year / 400

def yearOfDay (day : Int) : Int := (day - day / 1460 + day / 36524 - day / 146096) / 365

theorem yearOfDay_mono {a b : Int} (le : a ≤ b) : yearOfDay a ≤ yearOfDay b := by
  have quads : a - a / 1460 ≤ b - b / 1460 := by omega
  have centuries : a / 36524 - a / 146096 ≤ b / 36524 - b / 146096 := by omega
  exact Int.ediv_le_ediv (by omega) (by omega)

theorem yearOfDay_ends : ∀ y : Nat, y < 400 →
    yearOfDay (daysBefore y) = y ∧ yearOfDay (daysBefore (y + 1) - 1) = y := by
  decide +kernel

theorem yearOfDay_bounds {day : Int} (low : 0 ≤ day) (high : day < 146097) :
    0 ≤ yearOfDay day ∧ yearOfDay day < 400 ∧ daysBefore (yearOfDay day) ≤ day ∧
      day < daysBefore (yearOfDay day + 1) := by
  have first : yearOfDay 0 = 0 := by decide
  have last : yearOfDay 146096 = 399 := by decide
  have least := yearOfDay_mono low
  have greatest := yearOfDay_mono (show day ≤ 146096 by omega)
  obtain ⟨y, same⟩ := Int.eq_ofNat_of_zero_le (show 0 ≤ yearOfDay day by omega)
  -- outside its bounds the day would come after the last day of the year before, or not before the
  -- first of the year after, and so be of another year
  refine ⟨by omega, by omega, Int.le_of_not_gt fun before => ?_, Int.lt_of_not_ge fun after => ?_⟩
  · rw [same] at before
    cases y with
    | zero =>
      simp only [daysBefore] at before
      omega
    | succ y =>
      have ends := (yearOfDay_ends y (by omega)).2
      rw [Int.natCast_succ] at before
      have := yearOfDay_mono (show day ≤ daysBefore (y + 1) - 1 by omega)
      omega
  · rw [same] at after
    by_cases final : y = 399
    · simp only [daysBefore, final] at after
      omega
    · have ends := (yearOfDay_ends (y + 1) (by omega)).1
      rw [Int.natCast_succ] at ends
      have := yearOfDay_mono after
      omega

theorem isLeap_iff (year : Int) :
    isLeap year = true ↔ year % 4 = 0 ∧ (year % 100 ≠ 0 ∨ year % 400 = 0) := by
  simp [isLeap]

/-- A year has a day more than 365 just if it ends in a leap year. -/
theorem dayOfYear_le {year day : Int} (nonneg : 0 ≤ year) (less : year < 400)
    (last : day < daysBefore (year + 1)) (era : Int) :
    day - daysBefore year < 365 ∨
      day - daysBefore year = 365 ∧ isLeap (year + era * 400 + 1) = true := by
  have quad : (year + era * 400 + 1) % 4 = (year + 1) % 4 := by omega
  have century : (year + era * 400 + 1) % 100 = (year + 1) % 100 := by omega
  have cycle : (year + era * 400 + 1) % 400 = (year + 1) % 400 := by omega
  rw [isLeap_iff, quad, century, cycle]
  unfold daysBefore at *
  by_cases short : day - (365 * year + year / 4 - year / 100 + year / 400) < 365
  · exact .inl short
  · have divides : (year + 1) % 4 = 0 := by omega
    exact .inr ⟨by omega, divides, by omega⟩

/-- The month of a day of the year, March being the first and numbered zero. -/
def monthOfDay (day : Int) : Int := (5 * day + 2) / 153

def daysBeforeMonth (month : Int) : Int := (153 * month + 2) / 5

def monthNumber (month : Int) : Int := if month < 10 then month + 3 else month - 9

theorem monthNumber_le_two {month : Int} (low : 0 ≤ month) (high : month ≤ 11) :
    monthNumber month ≤ 2 ↔ 10 ≤ month := by
  unfold monthNumber
  split <;> omega

theorem monthNumber_march {month : Int} (low : 0 ≤ month) (high : month ≤ 11) :
    (monthNumber month + 9) % 12 = month := by
  unfold monthNumber
  split <;> omega

def dateOf (era year day : Int) : Int × Int × Int :=
  let month := monthNumber (monthOfDay day)
  (year + era * 400 + (if month ≤ 2 then 1 else 0), month,
    day - daysBeforeMonth (monthOfDay day) + 1)

structure IsDate (year month day : Int) : Prop where
  month_pos : 1 ≤ month
  month_le : month ≤ 12
  day_pos : 1 ≤ day
  day_le : day ≤ daysInMonth year month

def IsDay (days : Int) : Prop :=
  daysOfDate (-262143) 1 1 ≤ days ∧ days ≤ daysOfDate 262142 12 31

/-- Where a day falls. The last day of a year is there in leap years only. -/
structure FallsOn (days era year day : Int) : Prop where
  total : days = era * 146097 + daysBefore year + day - 719468
  year_nonneg : 0 ≤ year
  year_lt : year < 400
  day_nonneg : 0 ≤ day
  day_le : day < 365 ∨ day = 365 ∧ isLeap (year + era * 400 + 1) = true

theorem dateOfDays_fallsOn (days : Int) :
    ∃ era year day, FallsOn days era year day ∧ dateOfDays days = dateOf era year day := by
  have floor : (days + 719468).fdiv 146097 = (days + 719468) / 146097 :=
    Int.fdiv_eq_ediv_of_nonneg _ (by decide)
  generalize era_eq : (days + 719468) / 146097 = era at floor
  generalize day_eq : days + 719468 - era * 146097 = day
  obtain ⟨nonneg, less, first, last⟩ :=
    yearOfDay_bounds (show 0 ≤ day by omega) (show day < 146097 by omega)
  have leap : daysBefore (yearOfDay day) = 365 * yearOfDay day + yearOfDay day / 4 -
      yearOfDay day / 100 := by
    unfold daysBefore
    omega
  refine ⟨era, yearOfDay day, day - daysBefore (yearOfDay day), ?_, ?_⟩
  · exact ⟨by omega, nonneg, less, by omega, dayOfYear_le nonneg less last era⟩
  · rw [leap]
    simp only [dateOfDays, floor, day_eq]
    rfl

namespace FallsOn

variable {days era year day : Int} (falls : FallsOn days era year day)
include falls

theorem monthOfDay_bounds : 0 ≤ monthOfDay day ∧ monthOfDay day ≤ 11 := by
  have low := falls.day_nonneg
  have high := falls.day_le
  unfold monthOfDay
  omega

theorem isDate {y m d : Int} (date : dateOf era year day = (y, m, d)) : IsDate y m d := by
  obtain ⟨low, high⟩ := falls.monthOfDay_bounds
  have begun := falls.day_nonneg
  have length := falls.day_le
  have winter := monthNumber_le_two low high
  simp only [dateOf, daysBeforeMonth, Prod.mk.injEq] at date
  generalize month : monthOfDay day = march at *
  unfold monthOfDay at month
  obtain ⟨rfl, rfl, rfl⟩ := date
  have number : monthNumber march = if march < 10 then march + 3 else march - 9 := rfl
  refine ⟨by omega, by omega, by omega, ?_⟩
  by_cases early : march < 10
  · rw [if_neg (by omega), daysInMonth, if_neg (by omega)]
    split
    · omega
    · omega
  · rw [if_pos (by omega), daysInMonth]
    split
    · split
      · omega
      · next common =>
        simp only [common, Bool.false_eq_true, and_false, or_false] at length
        omega
    · rw [if_neg (by omega)]
      omega

theorem daysOfDate_eq {y m d : Int} (date : dateOf era year day = (y, m, d)) :
    daysOfDate y m d = days := by
  obtain ⟨low, high⟩ := falls.monthOfDay_bounds
  have total := falls.total
  have first := falls.year_nonneg
  have last := falls.year_lt
  have floor (n : Int) : n.fdiv 400 = n / 400 := Int.fdiv_eq_ediv_of_nonneg _ (by decide)
  have march := monthNumber_march low high
  simp only [dateOf, daysBeforeMonth, Prod.mk.injEq] at date
  obtain ⟨rfl, rfl, rfl⟩ := date
  have civil : (if monthNumber (monthOfDay day) ≤ 2 then
        year + era * 400 + (if monthNumber (monthOfDay day) ≤ 2 then 1 else 0) - 1
      else year + era * 400 + (if monthNumber (monthOfDay day) ≤ 2 then 1 else 0)) =
      year + era * 400 := by
    split <;> omega
  have cycle : (year + era * 400) / 400 = era := by omega
  unfold daysBefore at total
  simp only [daysOfDate, floor, march, civil, cycle]
  omega

theorem year_bounds {y m d : Int} (date : dateOf era year day = (y, m, d)) (within : IsDay days) :
    -262143 ≤ y ∧ y ≤ 262142 := by
  have first : daysOfDate (-262143) 1 1 = -96465292 := by decide
  have last : daysOfDate 262142 12 31 = 95026236 := by decide
  obtain ⟨low, high⟩ := within
  obtain ⟨total, nonneg, less, begun, length⟩ := falls
  have february : monthNumber (monthOfDay day) ≤ 2 ↔ 306 ≤ day := by
    unfold monthNumber monthOfDay
    omega
  simp only [dateOf, Prod.mk.injEq, february] at date
  obtain ⟨rfl, -, -⟩ := date
  rw [total, first] at low
  rw [total, last] at high
  unfold daysBefore at *
  have before : -656 ≤ era := by omega
  have after : era ≤ 655 := by omega
  constructor
  -- the calendar begins and ends inside an era, and there the year of the era counts
  · by_cases initial : era = -656
    · subst initial
      have : 256 ≤ year := by omega
      split <;> omega
    · split <;> omega
  · by_cases final : era = 655
    · subst final
      have : year ≤ 142 := by omega
      split <;> omega
    · split <;> omega

end FallsOn

theorem daysOfDate_dateOfDays {days y m d : Int} (within : IsDay days)
    (date : dateOfDays days = (y, m, d)) :
    IsDate y m d ∧ (-262143 ≤ y ∧ y ≤ 262142) ∧ daysOfDate y m d = days := by
  obtain ⟨era, year, day, falls, told⟩ := dateOfDays_fallsOn days
  rw [told] at date
  exact ⟨falls.isDate date, falls.year_bounds date within, falls.daysOfDate_eq date⟩

end Stepwise.Timestamp
