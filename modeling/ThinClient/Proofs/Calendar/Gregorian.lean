import ThinClient.Proofs.Calendar.Laws

/-!
# The civil calendar has the laws of dates and times

`CivilDate`, `ClockTime`, `OffsetDateTime`, `UtcDateTime` and `PlainDateTime` are types of dates and
times as `LawfulDateType`, `LawfulClockType`, `LawfulInstantType` and `LawfulFloatingType` ask for
them, so these laws can be had all together.

* `CivilDateTime.ofNanos?_eq_some_iff`: the date with time of a count is the only one that has it,
  and `CivilDateTime.exists_ofNanos?_iff` says which counts have one.
-/

namespace ThinClient

/-! ## Dates -/

namespace CivilDate

variable {c : CivilDate} {julian : Int32}

theorem toInt_julianDay_eq (c : CivilDate) :
    (DateType.julianDay c).toInt = c.dayNumber + epochJulianDay := by
  have hbounds := c.dayNumber_bounds
  exact Int32.toInt_ofInt_of_le (by rw [epochJulianDay]; omega) (by rw [epochJulianDay]; omega)

theorem exists_parts {year : Int} {month day : Nat} (h : IsCivilDate year month day) :
    ∃ c : CivilDate, c.year = year ∧ c.month = month ∧ c.day = day :=
  ⟨⟨year, month, day, h⟩, rfl, rfl, rfl⟩

theorem ofJulianDay?_eq_some_iff :
    DateType.ofJulianDay? julian = some c ↔ DateType.julianDay c = julian := by
  rw [← Int32.toInt_inj, toInt_julianDay_eq]
  refine ofDayNumber?_eq_some_iff.trans ?_
  omega

theorem julianDay_lt_iff (a b : CivilDate) :
    DateType.julianDay a < DateType.julianDay b ↔ a < b := by
  rw [Int32.lt_iff_toInt_lt, toInt_julianDay_eq, toInt_julianDay_eq, Int.add_lt_add_iff_right]
  exact dayNumber_lt_iff a b

theorem exists_toInt_julianDay {a b : CivilDate} {n : Int}
    (hlo : (DateType.julianDay a).toInt ≤ n) (hhi : n ≤ (DateType.julianDay b).toInt) :
    ∃ c : CivilDate, (DateType.julianDay c).toInt = n := by
  have ha := a.dayNumber_bounds
  have hb := b.dayNumber_bounds
  rw [toInt_julianDay_eq] at hlo hhi
  obtain ⟨c, hc⟩ : ∃ c, ofDayNumber? (n - epochJulianDay) = some c :=
    exists_ofDayNumber?_iff.mpr (by omega)
  refine ⟨c, ?_⟩
  rw [toInt_julianDay_eq, ofDayNumber?_eq_some_iff.mp hc, Int.sub_add_cancel]

theorem julianDay_of_epoch (hyear : c.year = 1970) (hmonth : c.month = 1) (hday : c.day = 1) :
    DateType.julianDay c = 2440588 := by
  rw [← Int32.toInt_inj, toInt_julianDay_eq, dayNumber, hyear, hmonth, hday]
  decide

instance : LawfulDateType CivilDate where
  isCivilDate := valid
  exists_date := exists_parts
  lt_iff _ _ := Iff.rfl
  ofJulianDay?_eq_some_iff := ofJulianDay?_eq_some_iff
  julianDay_lt_iff := julianDay_lt_iff
  exists_toInt_julianDay_eq := exists_toInt_julianDay
  julianDay_epoch := julianDay_of_epoch

end CivilDate

/-! ## Times of day -/

namespace ClockTime

variable {a b c : ClockTime} {hour minute second : UInt8} {milli : UInt16}

theorem toNat_hour (c : ClockTime) : (ClockType.hour c).toNat = c.hour :=
  UInt8.toNat_ofNat_of_lt' (Nat.lt_trans c.valid.1 (by decide))

theorem toNat_minute (c : ClockTime) : (ClockType.minute c).toNat = c.minute :=
  UInt8.toNat_ofNat_of_lt' (Nat.lt_trans c.valid.2.1 (by decide))

theorem toNat_second (c : ClockTime) : (ClockType.second c).toNat = c.second :=
  UInt8.toNat_ofNat_of_lt' (Nat.lt_trans c.valid.2.2.1 (by decide))

theorem toNat_nanosecond (c : ClockTime) : (ClockType.nanosecond c).toNat = c.nanosecond :=
  UInt32.toNat_ofNat_of_lt' (Nat.lt_trans c.valid.2.2.2 (by decide))

theorem toNat_millisecond (c : ClockTime) :
    (ClockType.millisecond c).toNat = c.nanosecond / 1000000 := by
  have hnanosecond := c.valid.2.2.2
  exact UInt16.toNat_ofNat_of_lt' (Nat.lt_trans (show c.nanosecond / 1000000 < 1000 by omega)
    (by decide))

theorem isClockTime (c : ClockTime) :
    IsClockTime (ClockType.hour c).toNat (ClockType.minute c).toNat (ClockType.second c).toNat
      (ClockType.nanosecond c).toNat := by
  rw [toNat_hour, toNat_minute, toNat_second, toNat_nanosecond]
  exact c.valid

theorem eq_of_shows (hhour : ClockType.hour a = ClockType.hour b)
    (hminute : ClockType.minute a = ClockType.minute b)
    (hsecond : ClockType.second a = ClockType.second b)
    (hnanosecond : ClockType.nanosecond a = ClockType.nanosecond b) : a = b := by
  rw [← UInt8.toNat_inj, toNat_hour, toNat_hour] at hhour
  rw [← UInt8.toNat_inj, toNat_minute, toNat_minute] at hminute
  rw [← UInt8.toNat_inj, toNat_second, toNat_second] at hsecond
  rw [← UInt32.toNat_inj, toNat_nanosecond, toNat_nanosecond] at hnanosecond
  cases a
  cases b
  simp_all only

theorem precedes_iff (a b : ClockTime) :
    a < b ↔ ClockType.hour a < ClockType.hour b ∨ ClockType.hour a = ClockType.hour b ∧
      (ClockType.minute a < ClockType.minute b ∨ ClockType.minute a = ClockType.minute b ∧
        (ClockType.second a < ClockType.second b ∨ ClockType.second a = ClockType.second b ∧
          ClockType.nanosecond a < ClockType.nanosecond b)) := by
  simp only [UInt8.lt_iff_toNat_lt, UInt32.lt_iff_toNat_lt, ← UInt8.toNat_inj, toNat_hour,
    toNat_minute, toNat_second, toNat_nanosecond]
  exact Iff.rfl

theorem exists_ofMilli?_iff :
    (∃ c : ClockTime, ClockType.ofMilli? hour minute second milli = some c) ↔
      hour.toNat < 24 ∧ minute.toNat < 60 ∧ second.toNat < 60 ∧ milli.toNat < 1000 := by
  have hvalid : IsClockTime hour.toNat minute.toNat second.toNat (milli.toNat * 1000000) ↔
      hour.toNat < 24 ∧ minute.toNat < 60 ∧ second.toNat < 60 ∧ milli.toNat < 1000 := by
    rw [IsClockTime]
    omega
  rw [← hvalid]
  change (∃ c, of? hour.toNat minute.toNat second.toNat (milli.toNat * 1000000) = some c) ↔ _
  rw [of?]
  constructor
  · rintro ⟨c, h⟩
    split at h
    next hparts => exact hparts
    next => cases h
  · exact fun h => ⟨_, dif_pos h⟩

theorem shows_of_ofMilli? (h : ClockType.ofMilli? hour minute second milli = some c) :
    ClockType.hour c = hour ∧ ClockType.minute c = minute ∧ ClockType.second c = second ∧
      (ClockType.nanosecond c).toNat = milli.toNat * 1000000 := by
  change of? _ _ _ _ = some c at h
  rw [of?] at h
  split at h
  next hvalid =>
    cases h
    exact ⟨UInt8.ofNat_toNat, UInt8.ofNat_toNat, UInt8.ofNat_toNat, toNat_nanosecond _⟩
  next => cases h

instance : LawfulClockType ClockTime where
  isClockTime := isClockTime
  ext := eq_of_shows
  lt_iff := precedes_iff
  millisecond_eq c := (toNat_millisecond c).trans (congrArg (· / 1000000) (toNat_nanosecond c).symm)
  exists_ofMilli?_iff := exists_ofMilli?_iff
  shows_of_ofMilli? := shows_of_ofMilli?

theorem seconds_lt (t : ClockTime) : t.seconds < 86400 := by
  obtain ⟨hhour, hminute, hsecond, -⟩ := t.valid
  rw [seconds]
  omega

theorem nanosecond_lt (t : ClockTime) : t.nanosecond < 1000000000 :=
  t.valid.2.2.2

theorem nanos_eq (t : ClockTime) : ClockType.nanos t = t.seconds * 1000000000 + t.nanosecond := by
  rw [ClockType.nanos, toNat_hour, toNat_minute, toNat_second, toNat_nanosecond, seconds]

theorem seconds_ofSeconds {seconds nanosecond : Nat} (hs : seconds < 86400)
    (hn : nanosecond < 1000000000) : (ofSeconds seconds nanosecond hs hn).seconds = seconds := by
  simp only [ClockTime.seconds, ofSeconds]
  omega

theorem ofSeconds_seconds (t : ClockTime) :
    ofSeconds t.seconds t.nanosecond t.seconds_lt t.nanosecond_lt = t := by
  obtain ⟨hour, minute, second, nanosecond, hvalid⟩ := t
  have hminute : minute < 60 := hvalid.2.1
  have hsecond : second < 60 := hvalid.2.2.1
  rw [ofSeconds, ClockTime.mk.injEq]
  simp only [seconds, and_true]
  omega

end ClockTime

/-! ## Dates with time -/

namespace CivilDateTime

variable {c : CivilDateTime} {n : Int}

theorem nanos_eq_civilNanos (c : CivilDateTime) : c.nanos = civilNanos c.date c.time := by
  rw [nanos, civilNanos, CivilDate.toInt_julianDay_eq, ClockTime.nanos_eq, nanosPerSecond]
  omega

/-- Days, seconds of the day and nanoseconds of the second are the digits of a count. -/
theorem nanos_eq_iff :
    c.nanos = n ↔ c.date.dayNumber = n / nanosPerSecond / 86400 ∧
      (c.time.seconds : Int) = n / nanosPerSecond % 86400 ∧
      (c.time.nanosecond : Int) = n % nanosPerSecond := by
  have hseconds := c.time.seconds_lt
  have hnanosecond := c.time.nanosecond_lt
  rw [nanos, nanosPerSecond]
  omega

/-- The date with time of a count is the only one that has it. -/
theorem ofNanos?_eq_some_iff : ofNanos? n = some c ↔ c.nanos = n := by
  rw [nanos_eq_iff, ofNanos?, Option.map_eq_some_iff]
  constructor
  · rintro ⟨date, hdate, rfl⟩
    refine ⟨CivilDate.ofDayNumber?_eq_some_iff.mp hdate, ?_, ?_⟩
    · rw [ClockTime.seconds_ofSeconds]
      omega
    · simp only [ClockTime.ofSeconds, nanosPerSecond]
      omega
  · rintro ⟨hdate, hseconds, hnanosecond⟩
    refine ⟨c.date, CivilDate.ofDayNumber?_eq_some_iff.mpr hdate, ?_⟩
    simp only [← hseconds, ← hnanosecond, Int.toNat_natCast, ClockTime.ofSeconds_seconds]

theorem exists_ofNanos?_iff : (∃ c, ofNanos? n = some c) ↔ InCalendar n := by
  have hdays : InCalendar n ↔
      -4371587 ≤ n / nanosPerSecond / 86400 ∧ n / nanosPerSecond / 86400 ≤ 2932896 := by
    rw [InCalendar, nanosPerSecond]
    omega
  rw [hdays, ← CivilDate.exists_ofDayNumber?_iff]
  simp only [ofNanos?, Option.map_eq_some_iff]
  constructor
  · rintro ⟨_, date, hdate, -⟩
    exact ⟨date, hdate⟩
  · rintro ⟨date, hdate⟩
    exact ⟨_, date, hdate, rfl⟩

/-- A type that wraps a date with time has one for the same counts. -/
theorem exists_map_ofNanos?_iff {ι : Type} (wrap : CivilDateTime → ι) :
    (∃ x, (ofNanos? n).map wrap = some x) ↔ InCalendar n := by
  rw [← exists_ofNanos?_iff]
  simp only [Option.map_eq_some_iff]
  constructor
  · rintro ⟨_, c, hc, -⟩
    exact ⟨c, hc⟩
  · rintro ⟨c, hc⟩
    exact ⟨_, c, hc, rfl⟩

end CivilDateTime

namespace UtcDateTime

variable {n : Int} {u : UtcDateTime}

theorem unixNanos_eq (u : UtcDateTime) :
    InstantType.unixNanos u = civilNanos (InstantType.date u) (InstantType.time u) -
      InstantType.offset u * nanosPerSecond :=
  u.civil.nanos_eq_civilNanos.trans (Int.sub_zero _).symm

theorem unixNanos_of_eq_some (h : InstantType.ofUnixNanos? n = some u) :
    InstantType.unixNanos u = n := by
  obtain ⟨c, hc, rfl⟩ := Option.map_eq_some_iff.mp h
  exact CivilDateTime.ofNanos?_eq_some_iff.mp hc

theorem offset_bounds (u : UtcDateTime) :
    -93600 < InstantType.offset u ∧ InstantType.offset u < 93600 := by
  change -93600 < (0 : Int) ∧ (0 : Int) < 93600
  decide

instance : LawfulInstantType UtcDateTime where
  unixNanos_eq := unixNanos_eq
  offset_bounds := offset_bounds
  unixNanos_of_eq_some := unixNanos_of_eq_some
  offset_of_eq_some _ := rfl
  exists_ofUnixNanos?_iff := CivilDateTime.exists_map_ofNanos?_iff _

end UtcDateTime

namespace OffsetDateTime

variable {n : Int} {o : OffsetDateTime}

theorem unixNanos_eq (o : OffsetDateTime) :
    InstantType.unixNanos o = civilNanos (InstantType.date o) (InstantType.time o) -
      InstantType.offset o * nanosPerSecond :=
  congrArg (· - o.offset * nanosPerSecond) o.civil.nanos_eq_civilNanos

theorem unixNanos_of_eq_some (h : InstantType.ofUnixNanos? n = some o) :
    InstantType.unixNanos o = n := by
  obtain ⟨c, hc, rfl⟩ := Option.map_eq_some_iff.mp h
  change c.nanos - 0 * nanosPerSecond = n
  rw [CivilDateTime.ofNanos?_eq_some_iff.mp hc, Int.zero_mul, Int.sub_zero]

theorem offset_of_eq_some (h : InstantType.ofUnixNanos? n = some o) :
    InstantType.offset o = 0 := by
  obtain ⟨c, -, rfl⟩ := Option.map_eq_some_iff.mp h
  rfl

instance : LawfulInstantType OffsetDateTime where
  unixNanos_eq := unixNanos_eq
  offset_bounds := offset_bounds
  unixNanos_of_eq_some := unixNanos_of_eq_some
  offset_of_eq_some := offset_of_eq_some
  exists_ofUnixNanos?_iff := CivilDateTime.exists_map_ofNanos?_iff _

end OffsetDateTime

instance : LawfulFloatingType PlainDateTime where
  date_new _ _ := rfl
  time_new _ _ := rfl
  date_assumeUtc _ := rfl
  time_assumeUtc _ := rfl
  offset_assumeUtc _ := rfl

end ThinClient
