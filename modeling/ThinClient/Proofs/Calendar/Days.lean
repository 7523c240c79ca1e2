import Mathlib.Order.Monotone.Basic
import Mathlib.Tactic.IntervalCases
import ThinClient.Calendar

/-!
# Dates are counts of days

`CivilDate.dayNumber` is a formula for the days from 1970 to a date, and `CivilDate.ofDayNumber?` is
one for the date of a count. That the two belong together is not seen from them.

* `CivilDate.monthStart_succ`: months follow one another, each behind the days of the one before it,
  and so none starts before an earlier one. That is why the formula for the days has the order of
  dates, `CivilDate.dayNumberOf_lt_iff`, and no two dates have the same number.
* `CivilDate.dayNumberOf_partsOfDayNumber`: the formula for the date of a count gives a date, and
  one with that number. An era is taken apart into centuries, cycles of four years and years for
  that, `CivilDate.DayOfEra`.
* `CivilDate.ofDayNumber?_eq_some_iff` follows from the two, and
  `CivilDate.exists_ofDayNumber?_iff` says which counts have a date.
-/

namespace ThinClient.CivilDate

variable {year year' n : Int} {month month' day day' : Nat}

/-- Whether a month has such a day, in a year that the calendar need not have. -/
def IsDay (year : Int) (month day : Nat) : Prop :=
  1 ≤ month ∧ month ≤ 12 ∧ 1 ≤ day ∧ day ≤ daysInMonth year month

instance (year : Int) (month day : Nat) : Decidable (IsDay year month day) :=
  inferInstanceAs (Decidable (_ ∧ _))

theorem isCivilDate_iff :
    IsCivilDate year month day ↔ -9999 ≤ year ∧ year ≤ 9999 ∧ IsDay year month day :=
  Iff.rfl

theorem isDay (d : CivilDate) : IsDay d.year d.month d.day :=
  d.valid.2.2

/-! ## Years that start in March -/

/-- Days from the first of March of the year 0 to the first of March of a year. -/
def marchStart (year : Int) : Int :=
  365 * year + year / 4 - year / 100 + year / 400

/-- A year that starts in March ends with the February of the next one. -/
theorem marchStart_succ (year : Int) :
    marchStart (year + 1) = marchStart year + if isLeapYear (year + 1) then 366 else 365 := by
  simp only [marchStart, isLeapYear, Bool.and_eq_true, Bool.or_eq_true, beq_iff_eq, bne_iff_ne]
  split <;> omega

/-- Every era has the same leap years. -/
theorem isLeapYear_add_eras (year eras : Int) :
    isLeapYear (year + eras * 400) = isLeapYear year := by
  have hfour : (year + eras * 400) % 4 = year % 4 := by omega
  have hhundred : (year + eras * 400) % 100 = year % 100 := by omega
  rw [isLeapYear, isLeapYear, hfour, hhundred, Int.add_mul_emod_self_right]

theorem marchStart_add_eras (year eras : Int) :
    marchStart (year + eras * 400) = marchStart year + eras * 146097 := by
  rw [marchStart, marchStart]
  omega

theorem dayNumberOf_eq (year : Int) (month day : Nat) :
    dayNumberOf year month day =
      marchStart (if month ≤ 2 then year - 1 else year) +
        ((153 * ((month + 9) % 12) + 2) / 5 + day - 1) - 719468 := by
  simp only [dayNumberOf, marchStart]
  omega

/-! ## Months -/

/-- The day before the first of a month; months are counted from January of the year 0. -/
def monthStart (month : Int) : Int :=
  dayNumberOf (month / 12) (month % 12 + 1).toNat 0

/-- How many months there are from January of the year 0 to a month. -/
def monthIndex (year : Int) (month : Nat) : Int :=
  12 * year + month - 1

theorem dayNumberOf_add_day (year : Int) (month day : Nat) :
    dayNumberOf year month day = dayNumberOf year month 0 + day := by
  rw [dayNumberOf_eq, dayNumberOf_eq]
  omega

theorem dayNumberOf_next_month (hlo : 1 ≤ month) (hhi : month < 12) :
    dayNumberOf year (month + 1) 0 = dayNumberOf year month 0 + daysInMonth year month := by
  have hmarch := marchStart_succ (year - 1)
  rw [Int.sub_add_cancel] at hmarch
  rw [dayNumberOf_eq, dayNumberOf_eq, daysInMonth]
  -- February is the only month whose length depends on the year
  interval_cases month <;> grind

theorem dayNumberOf_next_year (year : Int) :
    dayNumberOf (year + 1) 1 0 = dayNumberOf year 12 0 + 31 := by
  rw [dayNumberOf_eq, dayNumberOf_eq, if_pos (by decide), if_neg (by decide),
    Int.add_sub_cancel]
  omega

theorem monthStart_monthIndex (hlo : 1 ≤ month) (hhi : month ≤ 12) :
    monthStart (monthIndex year month) = dayNumberOf year month 0 := by
  have hyear : (12 * year + month - 1) / 12 = year := by omega
  have hmonth : ((12 * year + month - 1) % 12 + 1).toNat = month := by omega
  rw [monthStart, monthIndex, hyear, hmonth]

theorem exists_monthIndex (k : Int) :
    ∃ year month, 1 ≤ month ∧ month ≤ 12 ∧ monthIndex year month = k := by
  refine ⟨k / 12, (k % 12 + 1).toNat, ?_⟩
  rw [monthIndex]
  omega

/-- Behind the days of a month is the start of the next one. -/
theorem monthStart_succ (hlo : 1 ≤ month) (hhi : month ≤ 12) :
    monthStart (monthIndex year month + 1) =
      monthStart (monthIndex year month) + daysInMonth year month := by
  rw [monthStart_monthIndex hlo hhi]
  rcases Nat.lt_or_eq_of_le hhi with hlt | rfl
  · have hnext : monthIndex year month + 1 = monthIndex year (month + 1) := by
      rw [monthIndex, monthIndex]
      omega
    rw [hnext, monthStart_monthIndex (by omega) (by omega), dayNumberOf_next_month hlo hlt]
  · have hnext : monthIndex year 12 + 1 = monthIndex (year + 1) 1 := by
      rw [monthIndex, monthIndex]
      omega
    rw [hnext, monthStart_monthIndex (by decide) (by decide), dayNumberOf_next_year]
    rfl

theorem monthStart_mono {k l : Int} (h : k ≤ l) : monthStart k ≤ monthStart l := by
  refine monotone_int_of_le_succ (fun k => ?_) h
  obtain ⟨year, month, hlo, hhi, rfl⟩ := exists_monthIndex k
  rw [monthStart_succ hlo hhi]
  omega

/-! ## The order of dates -/

theorem dayNumberOf_lt_of_monthIndex_lt (h : IsDay year month day) (h' : IsDay year' month' day')
    (hlt : monthIndex year month < monthIndex year' month') :
    dayNumberOf year month day < dayNumberOf year' month' day' := by
  obtain ⟨hlo, hhi, -, hday⟩ := h
  obtain ⟨hlo', hhi', hday', -⟩ := h'
  calc dayNumberOf year month day
      = monthStart (monthIndex year month) + day := by
        rw [monthStart_monthIndex hlo hhi, dayNumberOf_add_day]
    _ ≤ monthStart (monthIndex year month + 1) := by
        rw [monthStart_succ hlo hhi]
        omega
    _ ≤ monthStart (monthIndex year' month') := monthStart_mono hlt
    _ < monthStart (monthIndex year' month') + day' := by omega
    _ = dayNumberOf year' month' day' := by
        rw [monthStart_monthIndex hlo' hhi', dayNumberOf_add_day year' month' day']

/-- Days are counted in the order of dates. -/
theorem dayNumberOf_lt_iff (h : IsDay year month day) (h' : IsDay year' month' day') :
    dayNumberOf year month day < dayNumberOf year' month' day' ↔
      year < year' ∨ year = year' ∧ (month < month' ∨ month = month' ∧ day < day') := by
  have hbefore := dayNumberOf_lt_of_monthIndex_lt h h'
  have hafter := dayNumberOf_lt_of_monthIndex_lt h' h
  have hday := dayNumberOf_add_day year month day
  have hday' := dayNumberOf_add_day year' month' day'
  obtain ⟨hlo, hhi, -, -⟩ := h
  obtain ⟨hlo', hhi', -, -⟩ := h'
  rw [monthIndex, monthIndex] at hbefore hafter
  rcases Int.lt_trichotomy (12 * year + month - 1) (12 * year' + month' - 1) with hlt | heq | hgt
  · have := hbefore hlt
    omega
  · obtain ⟨rfl, rfl⟩ : year = year' ∧ month = month' := by omega
    omega
  · have := hafter hgt
    omega

theorem dayNumberOf_inj (h : IsDay year month day) (h' : IsDay year' month' day')
    (heq : dayNumberOf year month day = dayNumberOf year' month' day') :
    year = year' ∧ month = month' ∧ day = day' := by
  have hbefore := mt (dayNumberOf_lt_iff h h').mpr (Int.not_lt.mpr heq.ge)
  have hafter := mt (dayNumberOf_lt_iff h' h).mpr (Int.not_lt.mpr heq.le)
  omega

/-! ## The date of a count -/

/-- The year of an era in which a day of it lies, as `partsOfDayNumber` computes it. -/
def yearOfEra (dayOfEra : Int) : Int :=
  (dayOfEra - dayOfEra / 1460 + dayOfEra / 36524 - dayOfEra / 146096) / 365

/-- A day of an era by its century, the cycle of four years, the year of that and the day of the
year. Only the last century and the last year of a cycle have a day more than the others, and a
century that is not the last one ends with a short cycle. -/
structure DayOfEra (dayOfEra century cycle year day : Int) : Prop where
  century_bounds : 0 ≤ century ∧ century ≤ 3
  cycle_bounds : 0 ≤ cycle ∧ cycle ≤ 24
  year_bounds : 0 ≤ year ∧ year ≤ 3
  day_nonneg : 0 ≤ day
  day_lt : day < 365 ∨ day = 365 ∧ year = 3 ∧ (cycle < 24 ∨ century = 3)
  sum : dayOfEra = 36524 * century + 1461 * cycle + 365 * year + day

theorem exists_dayOfEra (hlo : 0 ≤ n) (hhi : n < 146097) :
    ∃ century cycle year day, DayOfEra n century cycle year day := by
  obtain ⟨century, hcentury, hfrom, hto⟩ : ∃ c : Int, (0 ≤ c ∧ c ≤ 3) ∧ 0 ≤ n - 36524 * c ∧
      (n - 36524 * c < 36524 ∨ n - 36524 * c = 36524 ∧ c = 3) := by
    refine ⟨min (n / 36524) 3, ?_⟩
    omega
  generalize hrest : n - 36524 * century = rest at hfrom hto
  obtain ⟨year, hyear, hday, hday'⟩ : ∃ y : Int, (0 ≤ y ∧ y ≤ 3) ∧ 0 ≤ rest % 1461 - 365 * y ∧
      (rest % 1461 - 365 * y < 365 ∨ rest % 1461 - 365 * y = 365 ∧ y = 3) := by
    refine ⟨min (rest % 1461 / 365) 3, ?_⟩
    omega
  exact ⟨century, rest / 1461, year, rest % 1461 - 365 * year, hcentury, by omega, hyear, hday,
    by omega, by omega⟩

namespace DayOfEra

variable {century cycle day : Int}

theorem yearOfEra_eq (h : DayOfEra n century cycle year day) :
    yearOfEra n = 100 * century + 4 * cycle + year := by
  obtain ⟨hcentury, hcycle, hyear, hday, hday', hsum⟩ := h
  have hlast : 36524 * century ≤ n ∧ n < 36524 * century + 36524 ∨ n = 146096 ∧ century = 3 := by
    omega
  have hcenturies : n / 36524 - n / 146096 = century := by omega
  -- the leap days that are over: one more than the cycles if this one is nearly over
  have hleaps : n / 1460 = 25 * century + cycle ∧ 24 * century + cycle + 365 * year + day < 1460 ∨
      n / 1460 = 25 * century + cycle + 1 ∧ 1460 ≤ 24 * century + cycle + 365 * year + day := by
    omega
  rw [yearOfEra]
  omega

theorem eq_marchStart_add (h : DayOfEra n century cycle year day) :
    n = marchStart (yearOfEra n) + day := by
  rw [h.yearOfEra_eq, marchStart, h.sum]
  have hcentury := h.century_bounds
  have hcycle := h.cycle_bounds
  have hyear := h.year_bounds
  omega

theorem lt_or_isLeapYear (h : DayOfEra n century cycle year day) :
    day < 365 ∨ day = 365 ∧ isLeapYear (yearOfEra n + 1) = true := by
  rcases h.day_lt with hlt | ⟨heq, rfl, hcycle⟩
  · exact .inl hlt
  · have hcentury := h.century_bounds
    have hcycle' := h.cycle_bounds
    refine .inr ⟨heq, ?_⟩
    simp only [h.yearOfEra_eq, isLeapYear, Bool.and_eq_true, Bool.or_eq_true, beq_iff_eq,
      bne_iff_ne]
    omega

end DayOfEra

/-- The date of a day of a year that starts in March, as `partsOfDayNumber` computes it. -/
def partsOfMarchDay (year day : Int) : Int × Nat × Nat :=
  let marchMonth := (5 * day + 2) / 153
  let month := if marchMonth < 10 then marchMonth + 3 else marchMonth - 9
  (year + if month ≤ 2 then 1 else 0, month.toNat, (day - (153 * marchMonth + 2) / 5 + 1).toNat)

/-- The formula finds the month in which the day lies, and so the day of the month. -/
theorem partsOfMarchDay_spec (year : Int) {day : Int} (hlo : 0 ≤ day)
    (hhi : day < 365 ∨ day = 365 ∧ isLeapYear (year + 1) = true) :
    let (civilYear, month, dayOfMonth) := partsOfMarchDay year day
    IsDay civilYear month dayOfMonth ∧
      dayNumberOf civilYear month dayOfMonth = marchStart year + day - 719468 := by
  obtain ⟨marchMonth, hmonth⟩ : ∃ m, (5 * day + 2) / 153 = m := ⟨_, rfl⟩
  have hfrom : 0 ≤ marchMonth := by omega
  have hto : marchMonth < 12 := by omega
  simp only [partsOfMarchDay, hmonth]
  -- in each month the day of the month is linear in the day of the year
  interval_cases marchMonth <;> simp only [IsDay, daysInMonth, dayNumberOf_eq] <;> grind

theorem partsOfDayNumber_eq {era dayOfEra century cycle year day : Int}
    (hn : n + 719468 = era * 146097 + dayOfEra) (hlo : 0 ≤ dayOfEra) (hhi : dayOfEra < 146097)
    (h : DayOfEra dayOfEra century cycle year day) :
    partsOfDayNumber n = partsOfMarchDay (yearOfEra dayOfEra + era * 400) day := by
  have hera : (n + 719468) / 146097 = era := by omega
  have hday : (n + 719468) % 146097 = dayOfEra := by omega
  have hrest : dayOfEra - (365 * yearOfEra dayOfEra + yearOfEra dayOfEra / 4 -
      yearOfEra dayOfEra / 100) = day := by
    have hsum := h.eq_marchStart_add
    rw [h.yearOfEra_eq, marchStart] at hsum
    have hcentury := h.century_bounds
    have hcycle := h.cycle_bounds
    have hyear := h.year_bounds
    rw [h.yearOfEra_eq]
    omega
  rw [partsOfDayNumber, hera, hday]
  change partsOfMarchDay _ (dayOfEra - (365 * yearOfEra dayOfEra + yearOfEra dayOfEra / 4 -
    yearOfEra dayOfEra / 100)) = _
  rw [hrest]
  rfl

/-- Every count has a date, in a year that the calendar need not have. -/
theorem dayNumberOf_partsOfDayNumber (n : Int) :
    let (year, month, day) := partsOfDayNumber n
    IsDay year month day ∧ dayNumberOf year month day = n := by
  obtain ⟨era, dayOfEra, hn, hlo, hhi⟩ : ∃ era dayOfEra : Int,
      n + 719468 = era * 146097 + dayOfEra ∧ 0 ≤ dayOfEra ∧ dayOfEra < 146097 :=
    ⟨(n + 719468) / 146097, (n + 719468) % 146097, by omega⟩
  obtain ⟨century, cycle, year, day, h⟩ := exists_dayOfEra hlo hhi
  have hleap : day < 365 ∨ day = 365 ∧
      isLeapYear (yearOfEra dayOfEra + era * 400 + 1) = true := by
    rw [Int.add_right_comm, isLeapYear_add_eras]
    exact h.lt_or_isLeapYear
  obtain ⟨hday, hnumber⟩ :=
    partsOfMarchDay_spec (yearOfEra dayOfEra + era * 400) h.day_nonneg hleap
  rw [partsOfDayNumber_eq hn hlo hhi h]
  refine ⟨hday, ?_⟩
  rw [hnumber, marchStart_add_eras]
  have hsum := h.eq_marchStart_add
  omega

/-! ## Dates of the calendar -/

theorem dayNumber_lt_iff (a b : CivilDate) :
    a.dayNumber < b.dayNumber ↔
      a.year < b.year ∨ a.year = b.year ∧ (a.month < b.month ∨ a.month = b.month ∧ a.day < b.day) :=
  dayNumberOf_lt_iff a.isDay b.isDay

/-- The years of the calendar, by the counts of its first and its last day. -/
theorem year_bounds_iff (h : IsDay year month day) :
    -9999 ≤ year ∧ year ≤ 9999 ↔
      -4371587 ≤ dayNumberOf year month day ∧ dayNumberOf year month day ≤ 2932896 := by
  have hfirst : dayNumberOf (-9999) 1 1 = -4371587 := by decide
  have hlast : dayNumberOf 9999 12 31 = 2932896 := by decide
  have hbefore := dayNumberOf_lt_iff h (by decide : IsDay (-9999) 1 1)
  have hafter := dayNumberOf_lt_iff (by decide : IsDay 9999 12 31) h
  have hdays : daysInMonth year 12 = 31 := rfl
  obtain ⟨hlo, hhi, hday, hday'⟩ := h
  rw [hfirst] at hbefore
  rw [hlast] at hafter
  grind

theorem ofDayNumber?_eq (n : Int) :
    ∃ year month day, IsDay year month day ∧ dayNumberOf year month day = n ∧
      ofDayNumber? n = of? year month day := by
  have h := dayNumberOf_partsOfDayNumber n
  exact ⟨_, _, _, h.1, h.2, rfl⟩

/-- The date of a count is the only one that has it as its number. -/
theorem ofDayNumber?_eq_some_iff {d : CivilDate} : ofDayNumber? n = some d ↔ d.dayNumber = n := by
  obtain ⟨year, month, day, hday, hnumber, heq⟩ := ofDayNumber?_eq n
  rw [heq, of?]
  constructor
  · intro h
    split at h
    next => cases h; exact hnumber
    next => cases h
  · rintro rfl
    obtain ⟨rfl, rfl, rfl⟩ := dayNumberOf_inj hday d.isDay hnumber
    exact dif_pos d.valid

/-- Counts from that of the first date to that of the last one have a date. -/
theorem exists_ofDayNumber?_iff :
    (∃ d, ofDayNumber? n = some d) ↔ -4371587 ≤ n ∧ n ≤ 2932896 := by
  obtain ⟨year, month, day, hday, hnumber, heq⟩ := ofDayNumber?_eq n
  rw [← hnumber, ← year_bounds_iff hday, hnumber, heq, of?]
  constructor
  · rintro ⟨d, h⟩
    split at h
    next hvalid => exact ⟨hvalid.1, hvalid.2.1⟩
    next => cases h
  · exact fun h => ⟨_, dif_pos (isCivilDate_iff.mpr ⟨h.1, h.2, hday⟩)⟩

theorem dayNumber_bounds (c : CivilDate) : -4371587 ≤ c.dayNumber ∧ c.dayNumber ≤ 2932896 :=
  exists_ofDayNumber?_iff.mp ⟨c, ofDayNumber?_eq_some_iff.mpr rfl⟩

end ThinClient.CivilDate
