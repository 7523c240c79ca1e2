import Mathlib.Order.Bounds.Defs
import ThinClient.Proofs.Calendar.Gregorian
import ThinClient.Proofs.Width

/-!
# Dates on the wire are midnights of dates

A date on the wire is any number of milliseconds, and a date of a lawful type is a day. One way is
exact, the other one forgets the time within the day.

* `Date.toCivil_ofCivil`: a date comes back from its midnight.
* `Date.toCivil_eq_ok_iff`: what milliseconds are read as is the date whose day they lie in.
* `Date.toCivilChecked` and `Date.ofCivilChecked` go the same way in words of 64 and 32 bits, and no
  step of them overflows.
* `Date.toCivil_floors` puts this together.
-/

namespace ThinClient

open DateType

variable {δ : Type}

/-! ## 32 bits -/

theorem int32?_eq (n : Int) : int32? n = (fit? 4 n).map Int32.ofInt := by
  have hmin : Int32.minValue.toInt = -2147483648 := rfl
  have hmax : Int32.maxValue.toInt = 2147483647 := rfl
  rw [int32?, fit?, hmin, hmax]
  simp only [fitsIn_four_iff]
  split <;> rfl

theorem int32?_eq_some_iff {n : Int} {x : Int32} : int32? n = some x ↔ x.toInt = n := by
  have hmin : Int32.minValue.toInt = -2147483648 := rfl
  have hmax : Int32.maxValue.toInt = 2147483647 := rfl
  rw [int32?, hmin, hmax]
  constructor
  · intro h
    split at h
    next hfits =>
      cases h
      exact Int32.toInt_ofInt_of_le (by omega) (by omega)
    next => cases h
  · rintro rfl
    have hle := x.le_toInt
    have hlt := x.toInt_lt
    rw [if_pos (by omega), Int32.ofInt_toInt]

namespace Date

variable [DateType δ] {c c' : δ} {d : Date} {e : DecodeError}

/-! ## Steps of reading -/

/-- Whichever step fails, it does so with the same words. -/
theorem toCivil_eq (d : Date) :
    (d.toCivil : Except DecodeError δ) = orMalformed .dateOutOfRange
      ((int32? (epochJulianDay + d.millis.toInt / millisPerDay)).bind ofJulianDay?) :=
  orMalformed_bind _ _ _

theorem toCivil_eq_error_iff :
    (d.toCivil : Except DecodeError δ) = .error e ↔
      e = .malformed .dateOutOfRange ∧ ¬ ∃ c : δ, d.toCivil = .ok c := by
  rw [toCivil_eq, orMalformed_eq_error_iff]
  simp only [orMalformed_eq_ok_iff, Option.eq_none_iff_forall_ne_some, not_exists, ne_eq]

/-- The date in whose course a date on the wire lies, in words: milliseconds and days in 64 bits,
and the Julian day number in 32. -/
def toCivilChecked (d : Date) : Option (Except DecodeError δ) := do
  let days ← fit? 8 (d.millis.toInt / millisPerDay)
  let julian ← fit? 8 (epochJulianDay + days)
  return orMalformed .dateOutOfRange (((fit? 4 julian).map Int32.ofInt).bind ofJulianDay?)

theorem toCivilChecked_eq (d : Date) :
    (d.toCivilChecked : Option (Except DecodeError δ)) = some d.toCivil := by
  have hbounds := fitsIn_eight_iff.mp (fitsIn_toInt d.millis)
  have hdays : FitsIn 8 (d.millis.toInt / millisPerDay) := by
    rw [fitsIn_eight_iff, millisPerDay]
    omega
  have hjulian : FitsIn 8 (epochJulianDay + d.millis.toInt / millisPerDay) := by
    rw [fitsIn_eight_iff, millisPerDay, epochJulianDay]
    omega
  rw [toCivilChecked, fit?_bind_of_fitsIn hdays, fit?_bind_of_fitsIn hjulian, ← int32?_eq,
    ← toCivil_eq]
  rfl

variable [LawfulDateType δ]

/-! ## The two ways -/

theorem toInt_millis_ofCivil (c : δ) : (ofCivil c).millis.toInt = dayNumber c * millisPerDay := by
  have hbounds := dayNumber_bounds c
  have hfits : FitsIn 8 (dayNumber c * 86400000) := by
    rw [fitsIn_eight_iff]
    omega
  calc (Int64.ofInt ((julianDay c).toInt - epochJulianDay) * 86400000).toInt
      = (Int64.ofInt (dayNumber c) * 86400000).toInt := by
        rw [toInt_julianDay, Int.add_sub_cancel]
    _ = (Int64.ofInt (dayNumber c * 86400000)).toInt := by rw [Int64.ofInt_mul]; rfl
    _ = dayNumber c * 86400000 := toInt_ofInt_of_fitsIn hfits

/-- What milliseconds are read as is the date in whose day they lie. -/
theorem toCivil_eq_ok_iff : d.toCivil = .ok c ↔ dayNumber c = d.millis.toInt / millisPerDay := by
  rw [toCivil_eq, orMalformed_eq_ok_iff, Option.bind_eq_some_iff]
  simp only [int32?_eq_some_iff, ofJulianDay?_eq_some_iff]
  constructor
  · rintro ⟨julian, hjulian, hday⟩
    omega
  · intro h
    refine ⟨julianDay c, ?_, (toInt_julianDay c).symm⟩
    rw [toInt_julianDay, h, Int.add_comm]

/-- A date comes back from its midnight. -/
theorem toCivil_ofCivil (c : δ) : (ofCivil c).toCivil = .ok c := by
  rw [toCivil_eq_ok_iff, toInt_millis_ofCivil]
  exact (Int.mul_ediv_cancel _ (by decide)).symm

theorem exists_toCivil_iff :
    (∃ c : δ, d.toCivil = .ok c) ↔
      -4371587 ≤ d.millis.toInt / millisPerDay ∧ d.millis.toInt / millisPerDay ≤ 2932896 := by
  rw [← exists_dayNumber_eq_iff (δ := δ)]
  simp only [toCivil_eq_ok_iff]

theorem ofCivil_lt_iff (c c' : δ) : (ofCivil c).millis < (ofCivil c').millis ↔ c < c' := by
  rw [Int64.lt_iff_toInt_lt, toInt_millis_ofCivil, toInt_millis_ofCivil, millisPerDay,
    ← dayNumber_lt_iff]
  omega

/-- Milliseconds are read as the last midnight that is not after them. -/
theorem isGreatest_of_toCivil (h : d.toCivil = .ok c) :
    IsGreatest {m | millisPerDay ∣ m ∧ m ≤ d.millis.toInt} (ofCivil c).millis.toInt := by
  rw [toInt_millis_ofCivil, toCivil_eq_ok_iff.mp h]
  refine ⟨⟨Int.dvd_mul_left _ _, Int.ediv_mul_le _ (by decide)⟩, ?_⟩
  rintro _ ⟨⟨k, rfl⟩, hle⟩
  rw [millisPerDay] at *
  omega

/-- The midnight at which a date starts, in words of 64 bits. -/
def ofCivilChecked (c : δ) : Option Date := do
  let days ← fit? 8 ((julianDay c).toInt - epochJulianDay)
  let millis ← fit? 8 (days * millisPerDay)
  return ⟨Int64.ofInt millis⟩

theorem ofCivilChecked_eq (c : δ) : ofCivilChecked c = some (ofCivil c) := by
  have hbounds := dayNumber_bounds c
  have hdays : FitsIn 8 (dayNumber c) := by
    rw [fitsIn_eight_iff]
    omega
  have hmillis : FitsIn 8 (dayNumber c * millisPerDay) := by
    rw [fitsIn_eight_iff, millisPerDay]
    omega
  have hmidnight : Int64.ofInt (dayNumber c * millisPerDay) = (ofCivil c).millis := by
    rw [← Int64.toInt_inj, toInt_ofInt_of_fitsIn hmillis, toInt_millis_ofCivil]
  rw [ofCivilChecked, toInt_julianDay, Int.add_sub_cancel, fit?_bind_of_fitsIn hdays,
    fit?_bind_of_fitsIn hmillis, hmidnight]
  rfl

/-! ## Together -/

/-- **Dates on the wire are midnights of dates**, of any type that has the dates of the years -9999
to 9999 and numbers them as `LawfulDateType` says. A date comes back from its midnight, which is
that of 1970 for its first day, and midnights have the order of dates. Milliseconds are read as a
date exactly when their day is that of a date, which is one of the days from -1930999 to 5373484,
and the way back gives the last midnight that is not after them. In words of 64 and 32 bits nothing
of this overflows. -/
theorem toCivil_floors (c c' : δ) (d : Date) :
    ((ofCivil c).toCivil = .ok c ∧
      (year c = 1970 → month c = 1 → day c = 1 → ofCivil c = ⟨0⟩)) ∧
    ((ofCivil c).millis < (ofCivil c').millis ↔ c < c') ∧
    ((∃ e : δ, d.toCivil = .ok e) ↔
      ∃ e : δ, (julianDay e).toInt = d.millis.toInt / 86400000 + 2440588) ∧
    ((∃ e : δ, d.toCivil = .ok e) ↔ -1930999 ≤ d.millis.toInt / 86400000 + 2440588 ∧
      d.millis.toInt / 86400000 + 2440588 ≤ 5373484) ∧
    ((∀ error, (d.toCivil : Except DecodeError δ) = .error error ↔
        error = .malformed .dateOutOfRange ∧ ¬ ∃ e : δ, d.toCivil = .ok e) ∧
      Defect.dateOutOfRange.message = "date out of range") ∧
    (∀ e : δ, d.toCivil = .ok e →
      IsGreatest {m : Int | 86400000 ∣ m ∧ m ≤ d.millis.toInt} (ofCivil e).millis.toInt) ∧
    (d.toCivilChecked : Option (Except DecodeError δ)) = some d.toCivil ∧
    ofCivilChecked c = some (ofCivil c) := by
  refine ⟨⟨toCivil_ofCivil c, fun hyear hmonth hday => ?_⟩, ofCivil_lt_iff c c', ?_, ?_,
    ⟨fun _ => toCivil_eq_error_iff, rfl⟩, fun _ => isGreatest_of_toCivil, toCivilChecked_eq d,
    ofCivilChecked_eq c⟩
  · have hmillis : (ofCivil c).millis = 0 := by
      rw [← Int64.toInt_inj, toInt_millis_ofCivil, dayNumber, hyear, hmonth, hday]
      decide
    exact congrArg Date.mk hmillis
  · simp only [toCivil_eq_ok_iff, toInt_julianDay, millisPerDay, epochJulianDay, Int.add_left_inj]
  · rw [exists_toCivil_iff, millisPerDay]
    omega

/-- A millisecond before 1970 is read as the day before, which starts a day before 1970, and the
last millisecond there is lies behind the calendar. -/
theorem toCivil_floors_before1970 :
    LawfulDateType CivilDate ∧
    (⟨-1⟩ : Date).toCivil = .ok (⟨1969, 12, 31, by decide⟩ : CivilDate) ∧
      IsGreatest {m : Int | 86400000 ∣ m ∧ m ≤ -1} (-86400000) ∧
      ofCivil (⟨1970, 1, 1, by decide⟩ : CivilDate) = ⟨0⟩ ∧
      ((⟨Int64.maxValue⟩ : Date).toCivil : Except DecodeError CivilDate) =
        .error (.malformed .dateOutOfRange) := by
  have hread : (⟨-1⟩ : Date).toCivil = .ok (⟨1969, 12, 31, by decide⟩ : CivilDate) :=
    toCivil_eq_ok_iff.mpr (by decide)
  obtain ⟨⟨-, hepoch⟩, -, -, -, -, hgreatest, -⟩ := toCivil_floors
    (⟨1970, 1, 1, by decide⟩ : CivilDate) ⟨1969, 12, 31, by decide⟩ ⟨-1⟩
  obtain ⟨-, -, -, hrange, ⟨herror, -⟩, -⟩ := toCivil_floors
    (⟨1970, 1, 1, by decide⟩ : CivilDate) ⟨1969, 12, 31, by decide⟩ ⟨Int64.maxValue⟩
  exact ⟨inferInstance, hread, hgreatest _ hread, hepoch rfl rfl rfl,
    (herror _).mpr ⟨rfl, mt hrange.mp (by decide)⟩⟩

end Date

end ThinClient
