import ThinClient.Proofs.Calendar.Gregorian
import ThinClient.Proofs.Calendar.Instants

/-!
# Instants and dates with time say the same

An instant is a count of nanoseconds, and dates with time of lawful types have such counts. Three
types are at hand: one whose places are ahead of UTC or behind it, one whose places are in UTC, each
with a reading of counts of its own, and one of no stated place, whose dates with time are put
together from the date and the time that the first type has.

* `Timestamp.new_eq_ok_ofNanos`: every count of nanoseconds makes an instant.
* `Timestamp.unixNanos_ofInstant`: the milliseconds of a date with time fit into 64 bits wherever
  its place is, so that nothing is lost where they are cut off.
* `Timestamp.exists_toInstant` says what an instant is read as, and that two types agree on it is
  `InstantType.eq_parts_of_unixNanos_eq`.
* `Timestamp.unixNanos_assumeUtc_new`: a date with time in UTC keeps its instant where its place is
  left out.
* `Timestamp.civil_exact` puts this together for the three types.
-/

namespace ThinClient

variable {ι ο υ π δ τ : Type} [InstantType ι δ τ] [InstantType ο δ τ] [InstantType υ δ τ]
  [FloatingType π ο δ τ]

namespace Timestamp

variable {t : Timestamp} {n : Int}

/-! ## Counts and instants -/

theorem ofUnixNanos?_eq_ofNanos (h : FitsIn 8 (n / nanosPerMilli)) :
    ofUnixNanos? n = some (ofNanos n) := by
  rw [ofUnixNanos?_eq, if_pos h]
  rfl

/-- The check of the nanoseconds that go beyond milliseconds never fails. -/
theorem new_eq_ok_ofNanos (n : Int) :
    new (Int64.ofInt (n / nanosPerMilli)) (UInt32.ofNat (n % nanosPerMilli).toNat) =
      .ok (ofNanos n) :=
  new_eq_ok_iff.mpr ⟨nanos_mod_lt n, rfl, rfl⟩

theorem ofNanos_unixNanos (t : Timestamp) : ofNanos t.unixNanos = t := by
  have hfits : FitsIn 8 (t.unixNanos / nanosPerMilli) := by
    rw [unixNanos_ediv]
    exact fitsIn_toInt t.millis
  have hself : ofUnixNanos? t.unixNanos = some t := ofUnixNanos?_eq_some_iff.mpr rfl
  rw [ofUnixNanos?_eq_ofNanos hfits] at hself
  exact Option.some.inj hself

theorem ofInstant_of_unixNanos_eq {x : ι} (h : InstantType.unixNanos x = t.unixNanos) :
    ofInstant x = t := by
  rw [ofInstant, h, ofNanos_unixNanos]

theorem toFloating_of_toInstant {x : ο} (h : t.toInstant = .ok x) :
    t.toFloating = .ok (FloatingType.new (InstantType.date x) (InstantType.time x) : π) := by
  rw [toFloating, h]
  rfl

end Timestamp

variable [DateType δ] [ClockType τ]

/-! ## Counts of dates with time -/

namespace InstantType

theorem unixNanos_of_utc [LawfulInstantType ι] {x : ι} (h : offset x = 0) :
    unixNanos x = civilNanos (date x) (time x) := by
  rw [LawfulInstantType.unixNanos_eq, h, Int.zero_mul, Int.sub_zero]

/-- Two types have the same date and time in UTC for the same instant. -/
theorem eq_parts_of_unixNanos_eq [LawfulDateType δ] [LawfulClockType τ] [LawfulInstantType ο]
    [LawfulInstantType υ] {x : ο} {y : υ} (hx : offset x = 0) (hy : offset y = 0)
    (h : unixNanos x = unixNanos y) : date x = date y ∧ time x = time y := by
  rwa [unixNanos_of_utc hx, unixNanos_of_utc hy, civilNanos_inj] at h

/-- The milliseconds of a date with time fit into 64 bits wherever its place is. -/
theorem fitsIn_unixNanos [LawfulDateType δ] [LawfulClockType τ] [LawfulInstantType ι] (x : ι) :
    FitsIn 8 (unixNanos x / nanosPerMilli) := by
  have hcivil := inCalendar_civilNanos (date x) (time x)
  have hoffset : -93600 < offset x ∧ offset x < 93600 := LawfulInstantType.offset_bounds x
  rw [InCalendar] at hcivil
  rw [LawfulInstantType.unixNanos_eq, fitsIn_eight_iff, nanosPerSecond, nanosPerMilli]
  omega

end InstantType

namespace Timestamp

variable {t : Timestamp}

/-! ## From dates with time -/

theorem unixNanos_ofInstant [LawfulDateType δ] [LawfulClockType τ] [LawfulInstantType ι] (x : ι) :
    (ofInstant x).unixNanos = InstantType.unixNanos x :=
  ofUnixNanos?_eq_some_iff.mp (ofUnixNanos?_eq_ofNanos (InstantType.fitsIn_unixNanos x))

theorem unixNanos_assumeUtc [LawfulInstantType ο] [LawfulFloatingType π] (p : π) :
    InstantType.unixNanos (FloatingType.assumeUtc p) =
      civilNanos (FloatingType.date p) (FloatingType.time p) := by
  rw [InstantType.unixNanos_of_utc (LawfulFloatingType.offset_assumeUtc p),
    LawfulFloatingType.date_assumeUtc, LawfulFloatingType.time_assumeUtc]

/-! ## To dates with time -/

theorem exists_toInstant [LawfulInstantType ι] (h : InCalendar t.unixNanos) :
    ∃ x : ι, t.toInstant = .ok x ∧ InstantType.unixNanos x = t.unixNanos ∧
      InstantType.offset x = 0 := by
  obtain ⟨x, hx⟩ : ∃ x : ι, InstantType.ofUnixNanos? t.unixNanos = some x :=
    LawfulInstantType.exists_ofUnixNanos?_iff.mpr h
  exact ⟨x, orMalformed_eq_ok_iff.mpr hx, LawfulInstantType.unixNanos_of_eq_some hx,
    LawfulInstantType.offset_of_eq_some hx⟩

theorem toInstant_of_not_inCalendar [LawfulInstantType ι] (h : ¬ InCalendar t.unixNanos) :
    (t.toInstant : Except DecodeError ι) = .error (.malformed .timestampOutOfRange) := by
  have hnone : (InstantType.ofUnixNanos? t.unixNanos : Option ι) = none :=
    Option.eq_none_iff_forall_ne_some.mpr
      fun x hx => h (LawfulInstantType.exists_ofUnixNanos?_iff.mp ⟨x, hx⟩)
  exact orMalformed_eq_error_iff.mpr ⟨rfl, hnone⟩

theorem toFloating_of_not_inCalendar [LawfulInstantType ο] (h : ¬ InCalendar t.unixNanos) :
    (t.toFloating : Except DecodeError π) = .error (.malformed .timestampOutOfRange) := by
  rw [toFloating, toInstant_of_not_inCalendar h]
  rfl

/-- A date with time in UTC keeps its instant where its place is left out. -/
theorem unixNanos_assumeUtc_new [LawfulInstantType ο] [LawfulFloatingType π] {x : ο}
    (h : InstantType.offset x = 0) :
    InstantType.unixNanos (FloatingType.assumeUtc
      (FloatingType.new (InstantType.date x) (InstantType.time x) : π)) =
        InstantType.unixNanos x := by
  rw [unixNanos_assumeUtc, LawfulFloatingType.date_new, LawfulFloatingType.time_new,
    InstantType.unixNanos_of_utc h]

/-! ## Together -/

/-- **Instants and dates with time say the same**, for any types that have the laws of dates with
time. Dates with time of a place, of a place in UTC and of no place that counts as UTC give the
instant that they stand for, with the offset of the place taken away, also where this moves it into
another day or out of the calendar. An instant of the years -9999 to 9999 is read in all three types
as the same date and the same time of UTC, from which it comes back to the nanosecond; another one
is read in none of them. -/
theorem civil_exact [LawfulDateType δ] [LawfulClockType τ] [LawfulInstantType ο]
    [LawfulInstantType υ] [LawfulFloatingType π] (hutc : ∀ u : υ, InstantType.offset u = 0)
    (o : ο) (u : υ) (p : π) (t : Timestamp) :
    ((ofInstant o).unixNanos = InstantType.unixNanos o ∧
      InstantType.unixNanos o = civilNanos (InstantType.date o) (InstantType.time o) -
        InstantType.offset o * 1000000000) ∧
    ((ofInstant u).unixNanos = InstantType.unixNanos u ∧
      InstantType.unixNanos u = civilNanos (InstantType.date u) (InstantType.time u)) ∧
    (ofFloating p).unixNanos = civilNanos (FloatingType.date p) (FloatingType.time p) ∧
    (InCalendar t.unixNanos → ∃ (x : ο) (y : υ) (z : π),
      (t.toInstant = .ok x ∧ t.toInstant = .ok y ∧ t.toFloating = .ok z) ∧
      InstantType.offset x = 0 ∧
      (InstantType.date x = InstantType.date y ∧ FloatingType.date z = InstantType.date y) ∧
      (InstantType.time x = InstantType.time y ∧ FloatingType.time z = InstantType.time y) ∧
      civilNanos (InstantType.date y) (InstantType.time y) = t.unixNanos ∧
      ofInstant x = t ∧ ofInstant y = t ∧ ofFloating z = t) ∧
    (¬ InCalendar t.unixNanos →
      (t.toInstant : Except DecodeError ο) = .error (.malformed .timestampOutOfRange) ∧
      (t.toInstant : Except DecodeError υ) = .error (.malformed .timestampOutOfRange) ∧
      (t.toFloating : Except DecodeError π) = .error (.malformed .timestampOutOfRange)) ∧
    Defect.timestampOutOfRange.message = "timestamp out of range" := by
  refine ⟨⟨unixNanos_ofInstant o, LawfulInstantType.unixNanos_eq o⟩,
    ⟨unixNanos_ofInstant u, InstantType.unixNanos_of_utc (hutc u)⟩, ?_, fun hin => ?_,
    fun hout => ⟨toInstant_of_not_inCalendar hout, toInstant_of_not_inCalendar hout,
      toFloating_of_not_inCalendar hout⟩, rfl⟩
  · rw [ofFloating, unixNanos_ofInstant, unixNanos_assumeUtc]
  · obtain ⟨x, hx, hxcount, hoffset⟩ := exists_toInstant (ι := ο) hin
    obtain ⟨y, hy, hycount, -⟩ := exists_toInstant (ι := υ) hin
    obtain ⟨hdate, htime⟩ :=
      InstantType.eq_parts_of_unixNanos_eq hoffset (hutc y) (hxcount.trans hycount.symm)
    refine ⟨x, y, FloatingType.new (InstantType.date x) (InstantType.time x),
      ⟨hx, hy, toFloating_of_toInstant hx⟩, hoffset, ⟨hdate, ?_⟩, ⟨htime, ?_⟩, ?_,
      ofInstant_of_unixNanos_eq hxcount, ofInstant_of_unixNanos_eq hycount,
      ofInstant_of_unixNanos_eq ?_⟩
    · rw [LawfulFloatingType.date_new, hdate]
    · rw [LawfulFloatingType.time_new, htime]
    · rw [← InstantType.unixNanos_of_utc (hutc y), hycount]
    · rw [unixNanos_assumeUtc_new hoffset, hxcount]

/-- The nanosecond before 1970 is the last one of a day, the last instant that there is lies outside
the calendar, and an offset moves the end of the last year behind the calendar. -/
theorem civil_exact_before1970 :
    (LawfulInstantType OffsetDateTime ∧ LawfulInstantType UtcDateTime ∧
      LawfulFloatingType PlainDateTime ∧ ∀ u : UtcDateTime, InstantType.offset u = 0) ∧
    (InCalendar (unixNanos ⟨-1, 999999, by decide⟩) ∧
      toPlain ⟨-1, 999999, by decide⟩ =
        .ok ⟨⟨1969, 12, 31, by decide⟩, ⟨23, 59, 59, 999999999, by decide⟩⟩) ∧
    (¬ InCalendar (unixNanos ⟨Int64.maxValue, 999999, by decide⟩) ∧
      toOffset ⟨Int64.maxValue, 999999, by decide⟩ =
        .error (.malformed .timestampOutOfRange)) ∧
    (ofInstant (⟨⟨⟨9999, 12, 31, by decide⟩, ⟨23, 59, 59, 999999999, by decide⟩⟩, -1,
      by decide⟩ : OffsetDateTime)).unixNanos = 253402300800999999999 := by
  obtain ⟨c, hc⟩ : ∃ c : CivilDateTime,
    c = ⟨⟨1969, 12, 31, by decide⟩, ⟨23, 59, 59, 999999999, by decide⟩⟩ := ⟨_, rfl⟩
  have hin : InCalendar (unixNanos ⟨-1, 999999, by decide⟩) := by decide
  have hout : ¬ InCalendar (unixNanos ⟨Int64.maxValue, 999999, by decide⟩) := by decide
  have hutc : ∀ u : UtcDateTime, InstantType.offset u = 0 := fun _ => rfl
  obtain ⟨⟨hafter, -⟩, -, -, hinside, -⟩ := civil_exact hutc
    (⟨⟨⟨9999, 12, 31, by decide⟩, ⟨23, 59, 59, 999999999, by decide⟩⟩, -1, by decide⟩ :
      OffsetDateTime) ⟨c⟩ (⟨c⟩ : PlainDateTime) ⟨-1, 999999, by decide⟩
  obtain ⟨-, -, -, -, houtside, -⟩ := civil_exact hutc (.atUtc c) ⟨c⟩ (⟨c⟩ : PlainDateTime)
    ⟨Int64.maxValue, 999999, by decide⟩
  obtain ⟨x, y, z, ⟨-, -, hz⟩, -, ⟨-, hdate⟩, ⟨-, htime⟩, hcount, -⟩ := hinside hin
  have hsame : y.civil.date = c.date ∧ y.civil.time = c.time := by
    refine civilNanos_inj.mp (hcount.trans ?_)
    rw [← c.nanos_eq_civilNanos, hc]
    decide
  have hplain : z = ⟨c⟩ :=
    congrArg₂ (fun date time => PlainDateTime.mk ⟨date, time⟩) (hdate.trans hsame.1)
      (htime.trans hsame.2)
  refine ⟨⟨inferInstance, inferInstance, inferInstance, hutc⟩, ⟨hin, ?_⟩,
    ⟨hout, (houtside hout).1⟩, ?_⟩
  · rw [← hc, ← hplain]
    exact hz
  · rw [hafter]
    decide

end Timestamp

end ThinClient
