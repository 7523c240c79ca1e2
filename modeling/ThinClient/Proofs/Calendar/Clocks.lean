import ThinClient.Proofs.Calendar.Gregorian

/-!
# Times of day on the wire are whole milliseconds of a clock

A time of day on the wire is any number of milliseconds, and a time of day of a lawful type shows
the nanoseconds of one day. One way is exact, the other one forgets what goes beyond milliseconds.

* `Time.toClockChecked` goes over hours, minutes, seconds and milliseconds, which are cut down to
  words of 8 and 16 bits, and gives nothing if anything is cut off or no time can be set to them. It
  always gives something (`Time.toClockChecked_eq`).
* `Time.toClock_eq_ok_iff`: what milliseconds are read as is the time with as many nanoseconds.
* `Time.toInt_millis_ofClock`: a time is written as its nanoseconds, divided and rounded down.
* `Time.clock_truncates` puts this together.
-/

namespace ThinClient

open ClockType

/-! ## Casts -/

/-- The last 8 bits of a number, if they are all of it. -/
def octet? (n : Int) : Option UInt8 :=
  if ((UInt8.ofInt n).toNat : Int) = n then some (UInt8.ofInt n) else none

/-- The last 16 bits of a number, if they are all of it. -/
def doubleOctet? (n : Int) : Option UInt16 :=
  if ((UInt16.ofInt n).toNat : Int) = n then some (UInt16.ofInt n) else none

theorem toNat_octet {n : Int} (hlo : 0 ≤ n) (hhi : n < 256) : (UInt8.ofInt n).toNat = n := by
  have hall : (n % 2 ^ 8).toNat = n := by omega
  rw [UInt8.ofInt, UInt8.toNat_ofNat_of_lt' (Int.ofNat_lt.mp (hall.trans_lt hhi)), hall]

theorem toNat_doubleOctet {n : Int} (hlo : 0 ≤ n) (hhi : n < 65536) :
    (UInt16.ofInt n).toNat = n := by
  have hall : (n % 2 ^ 16).toNat = n := by omega
  rw [UInt16.ofInt, UInt16.toNat_ofNat_of_lt' (Int.ofNat_lt.mp (hall.trans_lt hhi)), hall]

theorem octet?_of_toNat {n : Int} (h : ((UInt8.ofInt n).toNat : Int) = n) :
    octet? n = some (UInt8.ofInt n) :=
  if_pos h

theorem doubleOctet?_of_toNat {n : Int} (h : ((UInt16.ofInt n).toNat : Int) = n) :
    doubleOctet? n = some (UInt16.ofInt n) :=
  if_pos h

namespace Time

variable {τ : Type} [ClockType τ] {t : Time} {c c' : τ} {e : DecodeError}

/-- A time of day that lies in one day. -/
def IsInDay (t : Time) : Prop :=
  0 ≤ t.millis.toInt ∧ t.millis.toInt < 86400000

instance (t : Time) : Decidable t.IsInDay :=
  inferInstanceAs (Decidable (_ ∧ _))

/-! ## Parts of a day -/

/-- Milliseconds of a day are the digits that they are taken apart into, and words of 8 and 16 bits
hold these. -/
theorem parts_of_isInDay (h : t.IsInDay) :
    ((UInt8.ofInt (hourOf t.millis.toInt)).toNat = hourOf t.millis.toInt ∧
      (UInt8.ofInt (minuteOf t.millis.toInt)).toNat = minuteOf t.millis.toInt ∧
      (UInt8.ofInt (secondOf t.millis.toInt)).toNat = secondOf t.millis.toInt ∧
      (UInt16.ofInt (milliOf t.millis.toInt)).toNat = milliOf t.millis.toInt) ∧
    (hourOf t.millis.toInt < 24 ∧ minuteOf t.millis.toInt < 60 ∧ secondOf t.millis.toInt < 60 ∧
      milliOf t.millis.toInt < 1000) ∧
    hourOf t.millis.toInt * 3600000 + minuteOf t.millis.toInt * 60000 +
      secondOf t.millis.toInt * 1000 + milliOf t.millis.toInt = t.millis.toInt := by
  obtain ⟨hlo, hhi⟩ := h
  generalize t.millis.toInt = millis at hlo hhi
  -- division and remainder of a number that is not negative are the usual ones
  have hrest : millis.tmod 3600000 = millis % 3600000 := Int.tmod_eq_emod_of_nonneg hlo
  have hrest' : (millis % 3600000).tmod 60000 = millis % 3600000 % 60000 :=
    Int.tmod_eq_emod_of_nonneg (Int.emod_nonneg _ (by decide))
  have hhour : hourOf millis = millis / 3600000 := Int.tdiv_eq_ediv_of_nonneg hlo
  have hminute : minuteOf millis = millis % 3600000 / 60000 := by
    rw [minuteOf, hrest]
    exact Int.tdiv_eq_ediv_of_nonneg (Int.emod_nonneg _ (by decide))
  have hsecond : secondOf millis = millis % 3600000 % 60000 / 1000 := by
    rw [secondOf, hrest, hrest']
    exact Int.tdiv_eq_ediv_of_nonneg (Int.emod_nonneg _ (by decide))
  have hmilli : milliOf millis = millis % 3600000 % 60000 % 1000 := by
    rw [milliOf, hrest, hrest']
    exact Int.tmod_eq_emod_of_nonneg (Int.emod_nonneg _ (by decide))
  rw [hhour, hminute, hsecond, hmilli]
  exact ⟨⟨toNat_octet (by omega) (by omega), toNat_octet (by omega) (by omega),
    toNat_octet (by omega) (by omega), toNat_doubleOctet (by omega) (by omega)⟩, by omega, by omega⟩

/-! ## The two ways -/

theorem toClock_of_isInDay (h : t.IsInDay) :
    (t.toClock : Except DecodeError τ) = orMalformed .timeOutOfRange
      (ofMilli? (UInt8.ofInt (hourOf t.millis.toInt)) (UInt8.ofInt (minuteOf t.millis.toInt))
        (UInt8.ofInt (secondOf t.millis.toInt)) (UInt16.ofInt (milliOf t.millis.toInt))) :=
  if_pos h

theorem toClock_of_not_isInDay (h : ¬ t.IsInDay) :
    (t.toClock : Except DecodeError τ) = .error (.malformed .timeOutOfRange) :=
  if_neg h

variable [LawfulClockType τ]

/-- A time of day can be set to the parts of whole milliseconds, and has as many nanoseconds. -/
theorem exists_ofMilli?_of_isInDay (h : t.IsInDay) :
    ∃ c : τ, ofMilli? (UInt8.ofInt (hourOf t.millis.toInt)) (UInt8.ofInt (minuteOf t.millis.toInt))
        (UInt8.ofInt (secondOf t.millis.toInt)) (UInt16.ofInt (milliOf t.millis.toInt)) = some c ∧
      (nanos c : Int) = t.millis.toInt * 1000000 := by
  obtain ⟨⟨hhour, hminute, hsecond, hmilli⟩, hbounds, hsum⟩ := parts_of_isInDay h
  obtain ⟨c, hc⟩ : ∃ c : τ, ofMilli? (UInt8.ofInt (hourOf t.millis.toInt))
      (UInt8.ofInt (minuteOf t.millis.toInt)) (UInt8.ofInt (secondOf t.millis.toInt))
      (UInt16.ofInt (milliOf t.millis.toInt)) = some c :=
    LawfulClockType.exists_ofMilli?_iff.mpr (by omega)
  obtain ⟨hhour', hminute', hsecond', hnanosecond⟩ := LawfulClockType.shows_of_ofMilli? hc
  refine ⟨c, hc, ?_⟩
  rw [nanos, hhour', hminute', hsecond', hnanosecond]
  omega

theorem exists_toClock_of_isInDay (h : t.IsInDay) :
    ∃ c : τ, t.toClock = .ok c ∧ (nanos c : Int) = t.millis.toInt * 1000000 := by
  obtain ⟨c, hc, hnanos⟩ := exists_ofMilli?_of_isInDay (τ := τ) h
  exact ⟨c, by rw [toClock_of_isInDay h, orMalformed_eq_ok_iff, hc], hnanos⟩

/-- What milliseconds are read as is the time with as many nanoseconds. -/
theorem toClock_eq_ok_iff : t.toClock = .ok c ↔ (nanos c : Int) = t.millis.toInt * 1000000 := by
  by_cases h : t.IsInDay
  · obtain ⟨found, hfound, hnanos⟩ := exists_toClock_of_isInDay (τ := τ) h
    rw [hfound, ← hnanos, Except.ok.injEq, Int.natCast_inj, nanos_inj]
    exact eq_comm
  · rw [toClock_of_not_isInDay h]
    have hlt := nanos_lt c
    rw [IsInDay] at h
    constructor
    · intro heq
      cases heq
    · intro heq
      omega

theorem exists_toClock_iff : (∃ c : τ, t.toClock = .ok c) ↔ t.IsInDay := by
  constructor
  · rintro ⟨c, h⟩
    rw [toClock_eq_ok_iff] at h
    have hlt := nanos_lt c
    rw [IsInDay]
    omega
  · intro h
    obtain ⟨c, hc, -⟩ := exists_toClock_of_isInDay (τ := τ) h
    exact ⟨c, hc⟩

theorem toClock_eq_error_iff :
    (t.toClock : Except DecodeError τ) = .error e ↔
      e = .malformed .timeOutOfRange ∧ ¬ t.IsInDay := by
  by_cases h : t.IsInDay
  · obtain ⟨c, hc, -⟩ := exists_toClock_of_isInDay (τ := τ) h
    simp [hc, h]
  · simp [toClock_of_not_isInDay h, h, eq_comm]

/-- A time is written as its nanoseconds, divided and rounded down. -/
theorem toInt_millis_ofClock (c : τ) : (ofClock c).millis.toInt = (nanos c / 1000000 : Nat) := by
  have hnanosecond := (LawfulClockType.isClockTime c).2.2.2
  have hsum : (hour c).toNat * 3600000 + (minute c).toNat * 60000 + (second c).toNat * 1000 +
      (millisecond c).toNat = nanos c / 1000000 := by
    rw [LawfulClockType.millisecond_eq, nanos]
    omega
  have hlt := nanos_lt c
  rw [ofClock, ofParts, hsum]
  exact Int64.toInt_ofNat_of_lt (by omega)

theorem ofClock_of_toClock (h : t.toClock = .ok c) : ofClock c = t := by
  rw [toClock_eq_ok_iff] at h
  have hmillis : (ofClock c).millis = t.millis := by
    rw [← Int64.toInt_inj, toInt_millis_ofClock]
    omega
  exact congrArg Time.mk hmillis

/-! ## There and back -/

/-- A time comes back without what goes beyond milliseconds. -/
theorem toClock_ofClock_eq_ok_iff :
    (ofClock c).toClock = .ok c' ↔ nanos c' = nanos c / 1000000 * 1000000 := by
  rw [toClock_eq_ok_iff, toInt_millis_ofClock]
  omega

theorem isInDay_ofClock (c : τ) : (ofClock c).IsInDay := by
  have hlt := nanos_lt c
  rw [IsInDay, toInt_millis_ofClock]
  omega

/-- Nanoseconds without what goes beyond milliseconds show the same hour, minute and second, and
whole milliseconds. -/
theorem shows_of_nanos_eq (h : nanos c' = nanos c / 1000000 * 1000000) :
    hour c' = hour c ∧ minute c' = minute c ∧ second c' = second c ∧
      (nanosecond c').toNat = (nanosecond c).toNat / 1000000 * 1000000 := by
  obtain ⟨hhour, hminute, hsecond, hnanosecond⟩ := nanos_eq_iff.mp h
  obtain ⟨hhour', hminute', hsecond', hnanosecond'⟩ := nanos_eq_iff.mp (rfl : nanos c = nanos c)
  rw [← UInt8.toNat_inj, ← UInt8.toNat_inj, ← UInt8.toNat_inj]
  omega

/-- A time that is not later is not written as a later time. -/
theorem ofClock_le (h : ¬ c' < c) : (ofClock c).millis ≤ (ofClock c').millis := by
  rw [lt_iff_nanos, Nat.not_lt] at h
  rw [Int64.le_iff_toInt_le, toInt_millis_ofClock, toInt_millis_ofClock]
  have hdiv : nanos c / 1000000 ≤ nanos c' / 1000000 := Nat.div_le_div_right h
  omega

/-! ## Words -/

/-- The time of day that is so many milliseconds after midnight, by way of words: hour, minute and
second in 8 bits and milliseconds in 16, to which a time is set. There is none if a word does not
hold its part or no time can be set to the parts. -/
def toClockChecked (t : Time) : Option (Except DecodeError τ) :=
  if t.IsInDay then do
    let hour ← octet? (hourOf t.millis.toInt)
    let minute ← octet? (minuteOf t.millis.toInt)
    let second ← octet? (secondOf t.millis.toInt)
    let milli ← doubleOctet? (milliOf t.millis.toInt)
    let clock ← ofMilli? hour minute second milli
    return .ok clock
  else return .error (.malformed .timeOutOfRange)

theorem toClockChecked_eq (t : Time) :
    (t.toClockChecked : Option (Except DecodeError τ)) = some t.toClock := by
  by_cases h : t.IsInDay
  · obtain ⟨⟨hhour, hminute, hsecond, hmilli⟩, -⟩ := parts_of_isInDay h
    obtain ⟨c, hset, -⟩ := exists_ofMilli?_of_isInDay (τ := τ) h
    rw [toClockChecked, if_pos h, octet?_of_toNat hhour, octet?_of_toNat hminute,
      octet?_of_toNat hsecond, doubleOctet?_of_toNat hmilli, toClock_of_isInDay h]
    simp only [Option.bind_eq_bind, Option.bind_some, hset]
    rfl
  · rw [toClock_of_not_isInDay h, toClockChecked, if_neg h]
    rfl

/-! ## Together -/

/-- **Times of day on the wire are whole milliseconds of a clock**, of any type whose times show and
are set to what `LawfulClockType` says. Milliseconds are read as a time exactly when they lie in one
day, no part of them is lost in the words that a time is set to, setting it does not fail, and they
come back. A time comes back without what goes beyond milliseconds, which happens once only, and
times keep their order. -/
theorem clock_truncates (t : Time) (c : τ) :
    ((∃ read : τ, t.toClock = .ok read) ↔ 0 ≤ t.millis.toInt ∧ t.millis.toInt < 86400000) ∧
    ((∀ e, (t.toClock : Except DecodeError τ) = .error e ↔ e = .malformed .timeOutOfRange ∧
        ¬ (0 ≤ t.millis.toInt ∧ t.millis.toInt < 86400000)) ∧
      Defect.timeOutOfRange.message = "time of day out of range") ∧
    (t.toClockChecked : Option (Except DecodeError τ)) = some t.toClock ∧
    (∀ read : τ, t.toClock = .ok read → ofClock read = t) ∧
    ∃ whole : τ, (ofClock c).toClock = .ok whole ∧
      (hour whole = hour c ∧ minute whole = minute c ∧ second whole = second c ∧
        (nanosecond whole).toNat = (nanosecond c).toNat / 1000000 * 1000000) ∧
      (ofClock whole = ofClock c ∧ (ofClock whole).toClock = .ok whole) ∧
      ∀ c' whole' : τ, (ofClock c').toClock = .ok whole' → ¬ c' < c →
        (ofClock c).millis ≤ (ofClock c').millis ∧ ¬ whole' < whole := by
  obtain ⟨whole, hwhole⟩ := exists_toClock_iff (τ := τ).mpr (isInDay_ofClock c)
  have hback := ofClock_of_toClock hwhole
  have hnanos := toClock_ofClock_eq_ok_iff.mp hwhole
  refine ⟨exists_toClock_iff, ⟨fun _ => toClock_eq_error_iff, rfl⟩, toClockChecked_eq t,
    fun _ => ofClock_of_toClock, whole, hwhole, shows_of_nanos_eq hnanos, ⟨hback, by rwa [hback]⟩,
    fun c' whole' hwhole' hle => ⟨ofClock_le hle, ?_⟩⟩
  rw [lt_iff_nanos, Nat.not_lt] at hle ⊢
  rw [hnanos, toClock_ofClock_eq_ok_iff.mp hwhole']
  exact Nat.mul_le_mul_right _ (Nat.div_le_div_right hle)

/-- The last nanosecond of a day and the one before it are written as the last millisecond, and the
first one of the next day is no time of day. -/
theorem clock_truncates_lastMilli :
    LawfulClockType ClockTime ∧
    (⟨86399999⟩ : Time).toClock = .ok (⟨23, 59, 59, 999000000, by decide⟩ : ClockTime) ∧
    ofClock (⟨23, 59, 59, 999000000, by decide⟩ : ClockTime) = ⟨86399999⟩ ∧
    ¬ (⟨23, 59, 59, 999999999, by decide⟩ : ClockTime) < ⟨23, 59, 59, 999999998, by decide⟩ ∧
    (ofClock (⟨23, 59, 59, 999999998, by decide⟩ : ClockTime)).millis ≤
      (ofClock (⟨23, 59, 59, 999999999, by decide⟩ : ClockTime)).millis ∧
    ((⟨86400000⟩ : Time).toClock : Except DecodeError ClockTime) =
      .error (.malformed .timeOutOfRange) := by
  have hread : (⟨86399999⟩ : Time).toClock =
      .ok (⟨23, 59, 59, 999000000, by decide⟩ : ClockTime) := toClock_eq_ok_iff.mpr (by decide)
  have hlast : (ofClock (⟨23, 59, 59, 999999999, by decide⟩ : ClockTime)).toClock =
      .ok (⟨23, 59, 59, 999000000, by decide⟩ : ClockTime) :=
    toClock_ofClock_eq_ok_iff.mpr (by decide)
  have hle : ¬ (⟨23, 59, 59, 999999999, by decide⟩ : ClockTime) <
      ⟨23, 59, 59, 999999998, by decide⟩ := by
    rw [lt_iff_nanos]
    decide
  obtain ⟨-, -, -, hback, _, -, -, -, hmono⟩ :=
    clock_truncates ⟨86399999⟩ (⟨23, 59, 59, 999999998, by decide⟩ : ClockTime)
  obtain ⟨-, ⟨herror, -⟩, -⟩ :=
    clock_truncates ⟨86400000⟩ (⟨23, 59, 59, 999999998, by decide⟩ : ClockTime)
  exact ⟨inferInstance, hread, hback _ hread, hle, (hmono _ _ hlast hle).1,
    (herror _).mpr ⟨rfl, by decide⟩⟩

end Time

end ThinClient
