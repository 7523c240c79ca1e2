import ThinClient.Proofs.Calendar.Days

/-!
# What is relied on of types of dates and times

The types of dates and times that values are read as are somebody else's, and this is what is known
of them: `LawfulDateType`, `LawfulClockType`, `LawfulInstantType` and `LawfulFloatingType` have the
laws of each kind. None of them speaks of the wire.

* `DateType.toInt_julianDay`: the laws leave no choice, and a Julian day number is the count of days
  from 1970 that the calendar has, moved to another start.
* `ClockType.nanos` counts nanoseconds since midnight; times of day are told apart and ordered by
  it.
* `civilNanos` counts nanoseconds since 1970, and dates with time are told apart by it,
  `civilNanos_inj`.
-/

namespace ThinClient

open DateType ClockType

/-! ## Dates -/

/-- Julian day numbers and dates belong to each other, for the dates of the years -9999 to 9999 of
the Gregorian calendar, in their order and without a gap; the first of January 1970 has the number
2440588. -/
class LawfulDateType (δ : Type) [DateType δ] : Prop where
  isCivilDate (c : δ) : IsCivilDate (year c) (month c) (day c)
  exists_date {y : Int} {m d : Nat} (h : IsCivilDate y m d) :
    ∃ c : δ, year c = y ∧ month c = m ∧ day c = d
  /-- Dates are ordered by year, month and day. -/
  lt_iff (a b : δ) :
    a < b ↔ year a < year b ∨ year a = year b ∧
      (month a < month b ∨ month a = month b ∧ day a < day b)
  ofJulianDay?_eq_some_iff {julian : Int32} {c : δ} :
    ofJulianDay? julian = some c ↔ julianDay c = julian
  julianDay_lt_iff (a b : δ) : julianDay a < julianDay b ↔ a < b
  /-- A number between those of two dates is that of a date. -/
  exists_toInt_julianDay_eq {a b : δ} {n : Int} (hlo : (julianDay a).toInt ≤ n)
    (hhi : n ≤ (julianDay b).toInt) : ∃ c : δ, (julianDay c).toInt = n
  julianDay_epoch {c : δ} (hyear : year c = 1970) (hmonth : month c = 1) (hday : day c = 1) :
    julianDay c = 2440588

namespace DateType

variable {δ : Type} [DateType δ] {a b c : δ} {n : Int}

/-- Days from the first of January 1970 to a date, as the calendar counts them. -/
def dayNumber (c : δ) : Int :=
  CivilDate.dayNumberOf (year c) (month c) (day c)

variable [LawfulDateType δ]

theorem isDay (c : δ) : CivilDate.IsDay (year c) (month c) (day c) :=
  (LawfulDateType.isCivilDate c).2.2

theorem dayNumber_lt_iff (a b : δ) : dayNumber a < dayNumber b ↔ a < b := by
  rw [LawfulDateType.lt_iff]
  exact CivilDate.dayNumberOf_lt_iff (isDay a) (isDay b)

/-- The years of the calendar, by the counts of its first and its last day. -/
theorem exists_dayNumber_eq_iff :
    (∃ c : δ, dayNumber c = n) ↔ -4371587 ≤ n ∧ n ≤ 2932896 := by
  constructor
  · rintro ⟨c, rfl⟩
    obtain ⟨hlo, hhi, hday⟩ := LawfulDateType.isCivilDate c
    exact (CivilDate.year_bounds_iff hday).mp ⟨hlo, hhi⟩
  · intro h
    obtain ⟨d, hd⟩ := CivilDate.exists_ofDayNumber?_iff.mpr h
    obtain ⟨c, hyear, hmonth, hday⟩ := LawfulDateType.exists_date (δ := δ) d.valid
    refine ⟨c, ?_⟩
    rw [dayNumber, hyear, hmonth, hday]
    exact CivilDate.ofDayNumber?_eq_some_iff.mp hd

theorem dayNumber_bounds (c : δ) : -4371587 ≤ dayNumber c ∧ dayNumber c ≤ 2932896 :=
  exists_dayNumber_eq_iff.mp ⟨c, rfl⟩

theorem toInt_julianDay_lt_iff (a b : δ) :
    (julianDay a).toInt < (julianDay b).toInt ↔ dayNumber a < dayNumber b := by
  rw [← Int32.lt_iff_toInt_lt, LawfulDateType.julianDay_lt_iff, dayNumber_lt_iff]

theorem julianDay_inj : julianDay a = julianDay b ↔ a = b := by
  constructor
  · intro h
    have ha : ofJulianDay? (julianDay b) = some a := LawfulDateType.ofJulianDay?_eq_some_iff.mpr h
    rw [LawfulDateType.ofJulianDay?_eq_some_iff.mpr rfl] at ha
    exact (Option.some.inj ha).symm
  · rintro rfl
    rfl

/-- The next day has the next number, since a number in between would be that of a date in
between. -/
theorem toInt_julianDay_of_next (h : dayNumber b = dayNumber a + 1) :
    (julianDay b).toInt = (julianDay a).toInt + 1 := by
  have hlt : (julianDay a).toInt < (julianDay b).toInt := by
    rw [toInt_julianDay_lt_iff]
    omega
  obtain ⟨c, hc⟩ := LawfulDateType.exists_toInt_julianDay_eq (a := a) (b := b)
    (n := (julianDay a).toInt + 1) (by omega) (by omega)
  have hafter : dayNumber a < dayNumber c := by
    rw [← toInt_julianDay_lt_iff]
    omega
  have hbefore : ¬ (julianDay c).toInt < (julianDay b).toInt := by
    rw [toInt_julianDay_lt_iff]
    omega
  omega

theorem toInt_julianDay_add (n : Nat) {a b : δ} (h : dayNumber b = dayNumber a + n) :
    (julianDay b).toInt = (julianDay a).toInt + n := by
  induction n generalizing b with
  | zero =>
    have hab := toInt_julianDay_lt_iff a b
    have hba := toInt_julianDay_lt_iff b a
    omega
  | succ n ih =>
    have ha := dayNumber_bounds a
    have hb := dayNumber_bounds b
    obtain ⟨c, hc⟩ := exists_dayNumber_eq_iff (δ := δ) (n := dayNumber a + n).mpr (by omega)
    have hnext := toInt_julianDay_of_next (show dayNumber b = dayNumber c + 1 by omega)
    rw [hnext, ih hc]
    omega

/-- Julian day numbers are the counts of days from 1970, moved to another start. -/
theorem toInt_julianDay (c : δ) : (julianDay c).toInt = dayNumber c + epochJulianDay := by
  obtain ⟨epoch, hyear, hmonth, hday⟩ :=
    LawfulDateType.exists_date (δ := δ) (show IsCivilDate 1970 1 1 by decide)
  have hnumber : dayNumber epoch = 0 := by
    rw [dayNumber, hyear, hmonth, hday]
    decide
  have hjulian : (julianDay epoch).toInt = epochJulianDay := by
    rw [LawfulDateType.julianDay_epoch hyear hmonth hday]
    rfl
  rcases Int.le_total 0 (dayNumber c) with h | h
  · have hlater := toInt_julianDay_add (dayNumber c).toNat (a := epoch) (b := c) (by omega)
    omega
  · have hearlier := toInt_julianDay_add (-dayNumber c).toNat (a := c) (b := epoch) (by omega)
    omega

theorem ofJulianDay?_eq_some_iff {julian : Int32} :
    ofJulianDay? julian = some c ↔ dayNumber c + epochJulianDay = julian.toInt := by
  rw [LawfulDateType.ofJulianDay?_eq_some_iff, ← Int32.toInt_inj, toInt_julianDay]

end DateType

/-! ## Times of day -/

/-- A time of day is its hour, its minute, its second and its nanoseconds, in this order, and it can
be set to whole milliseconds of any of them. -/
class LawfulClockType (τ : Type) [ClockType τ] : Prop where
  isClockTime (c : τ) :
    IsClockTime (hour c).toNat (minute c).toNat (second c).toNat (nanosecond c).toNat
  ext {a b : τ} (hhour : hour a = hour b) (hminute : minute a = minute b)
    (hsecond : second a = second b) (hnanosecond : nanosecond a = nanosecond b) : a = b
  /-- Times are ordered by hour, minute, second and nanosecond. -/
  lt_iff (a b : τ) :
    a < b ↔ hour a < hour b ∨ hour a = hour b ∧ (minute a < minute b ∨ minute a = minute b ∧
      (second a < second b ∨ second a = second b ∧ nanosecond a < nanosecond b))
  millisecond_eq (c : τ) : (millisecond c).toNat = (nanosecond c).toNat / 1000000
  /-- A time can be set to what a clock shows, and to nothing else. -/
  exists_ofMilli?_iff {h m s : UInt8} {ms : UInt16} :
    (∃ c : τ, ofMilli? h m s ms = some c) ↔
      h.toNat < 24 ∧ m.toNat < 60 ∧ s.toNat < 60 ∧ ms.toNat < 1000
  /-- A time that was set shows what it was set to. -/
  shows_of_ofMilli? {h m s : UInt8} {ms : UInt16} {c : τ} (hset : ofMilli? h m s ms = some c) :
    hour c = h ∧ minute c = m ∧ second c = s ∧ (nanosecond c).toNat = ms.toNat * 1000000

namespace ClockType

variable {τ : Type} [ClockType τ] {a b c : τ}

/-- Nanoseconds since midnight. -/
def nanos (c : τ) : Nat :=
  ((hour c).toNat * 3600 + (minute c).toNat * 60 + (second c).toNat) * 1000000000 +
    (nanosecond c).toNat

variable [LawfulClockType τ]

theorem nanos_lt (c : τ) : nanos c < 86400000000000 := by
  obtain ⟨hhour, hminute, hsecond, hnanosecond⟩ := LawfulClockType.isClockTime c
  rw [nanos]
  omega

/-- What a time shows are the digits of its nanoseconds. -/
theorem nanos_eq_iff {n : Nat} :
    nanos c = n ↔ (hour c).toNat = n / 3600000000000 ∧
      (minute c).toNat = n / 60000000000 % 60 ∧ (second c).toNat = n / 1000000000 % 60 ∧
        (nanosecond c).toNat = n % 1000000000 := by
  obtain ⟨hhour, hminute, hsecond, hnanosecond⟩ := LawfulClockType.isClockTime c
  rw [nanos]
  omega

theorem nanos_inj : nanos a = nanos b ↔ a = b := by
  constructor
  · intro h
    obtain ⟨hhour, hminute, hsecond, hnanosecond⟩ := nanos_eq_iff.mp h
    obtain ⟨hhour', hminute', hsecond', hnanosecond'⟩ := nanos_eq_iff.mp (rfl : nanos b = nanos b)
    exact LawfulClockType.ext (UInt8.toNat_inj.mp (hhour.trans hhour'.symm))
      (UInt8.toNat_inj.mp (hminute.trans hminute'.symm))
      (UInt8.toNat_inj.mp (hsecond.trans hsecond'.symm))
      (UInt32.toNat_inj.mp (hnanosecond.trans hnanosecond'.symm))
  · rintro rfl
    rfl

theorem lt_iff_nanos (a b : τ) : a < b ↔ nanos a < nanos b := by
  obtain ⟨-, haminute, hasecond, hananosecond⟩ := LawfulClockType.isClockTime a
  obtain ⟨-, hbminute, hbsecond, hbnanosecond⟩ := LawfulClockType.isClockTime b
  rw [LawfulClockType.lt_iff, nanos, nanos]
  simp only [UInt8.lt_iff_toNat_lt, UInt32.lt_iff_toNat_lt, ← UInt8.toNat_inj]
  omega

end ClockType

/-! ## Dates with time -/

/-- Nanoseconds from the start of 1970 to a date with time, both of one place. -/
def civilNanos {δ τ : Type} [DateType δ] [ClockType τ] (date : δ) (time : τ) : Int :=
  ((julianDay date).toInt - epochJulianDay) * 86400000000000 + nanos time

/-- Whether an instant, in nanoseconds, lies in one of the years -9999 to 9999 of UTC. -/
def InCalendar (nanos : Int) : Prop :=
  -377705116800000000000 ≤ nanos ∧ nanos ≤ 253402300799999999999

instance (nanos : Int) : Decidable (InCalendar nanos) :=
  inferInstanceAs (Decidable (_ ∧ _))

/-- The count of nanoseconds of a date with time is that of its instant in UTC. The other way gives
a date with time in UTC, for the counts of the years -9999 to 9999. -/
class LawfulInstantType (ι : Type) {δ τ : Type} [DateType δ] [ClockType τ] [InstantType ι δ τ] :
    Prop where
  unixNanos_eq (x : ι) :
    InstantType.unixNanos x = civilNanos (InstantType.date x) (InstantType.time x) -
      InstantType.offset x * nanosPerSecond
  /-- A place is less than 26 hours ahead of UTC or behind it. -/
  offset_bounds (x : ι) : -93600 < InstantType.offset x ∧ InstantType.offset x < 93600
  unixNanos_of_eq_some {n : Int} {x : ι} (h : InstantType.ofUnixNanos? n = some x) :
    InstantType.unixNanos x = n
  offset_of_eq_some {n : Int} {x : ι} (h : InstantType.ofUnixNanos? n = some x) :
    InstantType.offset x = 0
  exists_ofUnixNanos?_iff {n : Int} :
    (∃ x : ι, InstantType.ofUnixNanos? n = some x) ↔ InCalendar n

/-- A date with time of no stated place is a date and a time, also where it is taken as UTC. -/
class LawfulFloatingType (π : Type) {ο δ τ : Type} [InstantType ο δ τ] [FloatingType π ο δ τ] :
    Prop where
  date_new (d : δ) (t : τ) : FloatingType.date (FloatingType.new d t : π) = d
  time_new (d : δ) (t : τ) : FloatingType.time (FloatingType.new d t : π) = t
  date_assumeUtc (p : π) : InstantType.date (FloatingType.assumeUtc p) = FloatingType.date p
  time_assumeUtc (p : π) : InstantType.time (FloatingType.assumeUtc p) = FloatingType.time p
  offset_assumeUtc (p : π) : InstantType.offset (FloatingType.assumeUtc p) = 0

section

variable {δ τ : Type} [DateType δ] [ClockType τ] [LawfulDateType δ] [LawfulClockType τ]

theorem inCalendar_civilNanos (d : δ) (t : τ) : InCalendar (civilNanos d t) := by
  have hday := dayNumber_bounds d
  have htime := nanos_lt t
  rw [InCalendar, civilNanos, toInt_julianDay]
  omega

/-- A count of nanoseconds tells the date from the time. -/
theorem civilNanos_inj {d d' : δ} {t t' : τ} :
    civilNanos d t = civilNanos d' t' ↔ d = d' ∧ t = t' := by
  constructor
  · intro h
    have ht := nanos_lt t
    have ht' := nanos_lt t'
    rw [civilNanos, civilNanos] at h
    rw [← julianDay_inj, ← Int32.toInt_inj, ← nanos_inj (a := t)]
    omega
  · rintro ⟨rfl, rfl⟩
    rfl

end

end ThinClient
