import ThinClient.Proofs.Value.Spelling
import ThinClient.Proofs.Width

/-!
# Instants are counts of nanoseconds

An instant is kept as milliseconds and a remainder, and the remainder is never negative: before 1970
the milliseconds are those of the floor. This module shows that nothing of that can be seen.

* `Timestamp.order_eq_compare`: instants are ordered as their counts are, since a remainder is below
  a millisecond.
* `Timestamp.ofUnixNanos?_eq_some_iff`: the instant of a count is the only one that has it.
* `Timestamp.unixNanosChecked` and `Timestamp.ofUnixNanosChecked` are the two ways in words of 128
  bits, and no step of them overflows.
* `Timestamp.unixNanos_embeds` puts this together, for instants from wherever they come.
-/

namespace ThinClient.Timestamp

variable {a b t : Timestamp} {n : Int}

/-! ## Milliseconds and remainder -/

theorem new_eq_ok_iff {millis : Int64} {nanos : UInt32} :
    new millis nanos = .ok t ↔ nanos.toNat < 1000000 ∧ t.millis = millis ∧ t.nanos = nanos := by
  rw [new]
  split
  next h =>
    constructor
    · intro heq
      cases heq
      exact ⟨h, rfl, rfl⟩
    · rintro ⟨-, rfl, rfl⟩
      rfl
  next h =>
    constructor
    · intro heq
      cases heq
    · exact fun heq => absurd heq.1 h

theorem unixNanos_ediv (t : Timestamp) : t.unixNanos / nanosPerMilli = t.millis.toInt := by
  have hlt := t.nanos_lt
  rw [unixNanos, nanosPerMilli]
  omega

theorem unixNanos_emod (t : Timestamp) : t.unixNanos % nanosPerMilli = t.nanos.toNat := by
  have hlt := t.nanos_lt
  rw [unixNanos, nanosPerMilli]
  omega

theorem ofUnixNanos?_eq (n : Int) :
    ofUnixNanos? n = if FitsIn 8 (n / nanosPerMilli) then
      some ⟨Int64.ofInt (n / nanosPerMilli), UInt32.ofNat (n % nanosPerMilli).toNat, nanos_mod_lt n⟩
    else none := by
  have hmin : Int64.minValue.toInt = -9223372036854775808 := rfl
  have hmax : Int64.maxValue.toInt = 9223372036854775807 := rfl
  simp only [ofUnixNanos?, fitsIn_eight_iff, hmin, hmax]

theorem ofUnixNanos?_eq_none_iff : ofUnixNanos? n = none ↔ ¬ FitsIn 8 (n / nanosPerMilli) := by
  rw [ofUnixNanos?_eq]
  split <;> simp [*]

/-- The remainder of a count fits into the word that is kept of it. -/
theorem toNat_ofNat_emod (n : Int) :
    ((UInt32.ofNat (n % nanosPerMilli).toNat).toNat : Int) = n % nanosPerMilli := by
  rw [nanosPerMilli, UInt32.toNat_ofNat']
  omega

/-- There is one instant for each count. -/
theorem ofUnixNanos?_eq_some_iff : ofUnixNanos? n = some t ↔ t.unixNanos = n := by
  rw [ofUnixNanos?_eq]
  constructor
  · intro h
    split at h
    next hfits =>
      cases h
      rw [unixNanos, toInt_ofInt_of_fitsIn hfits, toNat_ofNat_emod, Int.mul_comm]
      exact Int.mul_ediv_add_emod n nanosPerMilli
    next => cases h
  · rintro rfl
    have hmillis : Int64.ofInt (t.unixNanos / nanosPerMilli) = t.millis := by
      rw [unixNanos_ediv, Int64.ofInt_toInt]
    have hnanos : UInt32.ofNat (t.unixNanos % nanosPerMilli).toNat = t.nanos := by
      rw [unixNanos_emod]
      exact UInt32.ofNat_toNat
    rw [if_pos (by rw [unixNanos_ediv]; exact fitsIn_toInt t.millis)]
    simp only [hmillis, hnanos]

/-! ## Order -/

theorem compare_toInt (x y : Int64) : compare x y = compare x.toInt y.toInt := by
  simp only [compare, compareOfLessAndEq, Int64.lt_iff_toInt_lt, Int64.toInt_inj]

theorem compare_toNat (x y : UInt32) : compare x y = compare x.toNat y.toNat := by
  simp only [compare, compareOfLessAndEq, UInt32.lt_iff_toNat_lt, UInt32.toNat_inj]

/-- The greater digit decides, and the smaller one if that is the same. -/
theorem then_compare {p q : Int} {r s : Nat} (hr : r < 1000000) (hs : s < 1000000) :
    (compare p q).then (compare r s) = compare (p * 1000000 + r) (q * 1000000 + s) := by
  rcases Int.lt_trichotomy p q with h | rfl | h
  · rw [Int.compare_eq_lt.mpr h, Int.compare_eq_lt.mpr (by omega)]
    rfl
  · rw [Std.ReflOrd.compare_self]
    change compare r s = _
    simp only [compare, compareOfLessAndEq]
    grind
  · rw [Int.compare_eq_gt.mpr h, Int.compare_eq_gt.mpr (by omega)]
    rfl

theorem order_eq_compare (a b : Timestamp) : a.order b = compare a.unixNanos b.unixNanos := by
  rw [order, compare_toInt, compare_toNat, then_compare a.nanos_lt b.nanos_lt]
  rfl

/-! ## Words -/

/-- The nanoseconds of an instant, in words of 128 bits. -/
def unixNanosChecked (t : Timestamp) : Option Int := do
  let whole ← fit? 16 (t.millis.toInt * nanosPerMilli)
  fit? 16 (whole + t.nanos.toNat)

/-- The instant of nanoseconds in a word of 128 bits; the milliseconds have to fit into 64 bits. -/
def ofUnixNanosChecked (n : Int) : Option (Option Timestamp) := do
  let millis ← fit? 16 (n / nanosPerMilli)
  let nanos ← fit? 16 (n % nanosPerMilli)
  return do
    let millis ← fit? 8 millis
    (new (Int64.ofInt millis) (UInt32.ofNat nanos.toNat)).toOption

theorem unixNanosChecked_eq (t : Timestamp) : t.unixNanosChecked = some t.unixNanos := by
  have hmillis := fitsIn_eight_iff.mp (fitsIn_toInt t.millis)
  have hlt := t.nanos_lt
  have hwhole : FitsIn 16 (t.millis.toInt * nanosPerMilli) := by
    rw [fitsIn_sixteen_iff, nanosPerMilli]
    omega
  have hsum : FitsIn 16 (t.millis.toInt * nanosPerMilli + t.nanos.toNat) := by
    rw [fitsIn_sixteen_iff, nanosPerMilli]
    omega
  rw [unixNanosChecked, fit?_bind_of_fitsIn hwhole, fit?_of_fitsIn hsum]
  rfl

theorem ofUnixNanosChecked_eq (hn : FitsIn 16 n) :
    ofUnixNanosChecked n = some (ofUnixNanos? n) := by
  rw [fitsIn_sixteen_iff] at hn
  have hdiv : FitsIn 16 (n / nanosPerMilli) := by
    rw [fitsIn_sixteen_iff, nanosPerMilli]
    omega
  have hmod : FitsIn 16 (n % nanosPerMilli) := by
    rw [fitsIn_sixteen_iff, nanosPerMilli]
    omega
  rw [ofUnixNanosChecked, fit?_bind_of_fitsIn hdiv, fit?_bind_of_fitsIn hmod, ofUnixNanos?_eq]
  by_cases hfits : FitsIn 8 (n / nanosPerMilli)
  · have hnew : new (Int64.ofInt (n / nanosPerMilli)) (UInt32.ofNat (n % nanosPerMilli).toNat) =
        .ok ⟨_, _, nanos_mod_lt n⟩ := new_eq_ok_iff.mpr ⟨nanos_mod_lt n, rfl, rfl⟩
    rw [if_pos hfits, fit?_bind_of_fitsIn hfits, hnew]
    rfl
  · rw [if_neg hfits, fit?_of_not_fitsIn hfits]
    rfl

/-! ## Together -/

theorem readTimestamp_eq_ok_iff {buffer rest : Bytes} :
    WireValue.readTimestamp buffer = .ok t rest ↔ buffer = encodeTimestamp t ++ rest := by
  constructor
  · intro h
    obtain ⟨p, rfl, rfl⟩ := WireValue.readTimestamp_yields _ _ _ h
    rfl
  · rintro rfl
    exact WireValue.encodeTimestamp_takes t rest

/-- **Instants are counts of nanoseconds.** Wherever one comes from, its remainder is below a
millisecond: `new` and the reader of octets refuse another one, and there is none to split off from
milliseconds or a count. So instants have the order of their counts, and each is the instant of its
count; counts whose milliseconds 64 bits cannot hold have none. In 128 bits nothing of this
overflows. -/
theorem unixNanos_embeds (a b : Timestamp) (n : Int) :
    (a.nanos.toNat < 1000000 ∧
      (∀ millis nanos, new millis nanos = .ok a ↔
        nanos.toNat < 1000000 ∧ a.millis = millis ∧ a.nanos = nanos) ∧
      (∀ millis, (ofMillis millis).millis = millis ∧ (ofMillis millis).nanos = 0) ∧
      ∀ buffer rest, WireValue.readTimestamp buffer = .ok a rest ↔
        buffer = Word.encode a.millis ++ Word.encode a.nanos ++ rest) ∧
    (a.order b = .lt ↔ a.unixNanos < b.unixNanos) ∧
    ofUnixNanos? a.unixNanos = some a ∧
    (ofUnixNanos? n = none ↔ ¬ FitsIn 8 (n / 1000000)) ∧
    (ofUnixNanos? n = some a ↔ a.unixNanos = n) ∧
    a.unixNanosChecked = some a.unixNanos ∧
    (FitsIn 16 n → ofUnixNanosChecked n = some (ofUnixNanos? n)) := by
  refine ⟨⟨a.nanos_lt, fun _ _ => new_eq_ok_iff, fun _ => ⟨rfl, rfl⟩,
    fun _ _ => readTimestamp_eq_ok_iff⟩, ?_, ofUnixNanos?_eq_some_iff.mpr rfl,
    ofUnixNanos?_eq_none_iff, ofUnixNanos?_eq_some_iff, unixNanosChecked_eq a,
    ofUnixNanosChecked_eq⟩
  rw [order_eq_compare]
  exact Int.compare_eq_lt

/-- The nanosecond before 1970 is the last one of the millisecond before it. -/
theorem unixNanos_embeds_before1970 :
    FitsIn 16 (-1) ∧ ofUnixNanosChecked (-1) = some (ofUnixNanos? (-1)) ∧
      ofUnixNanos? (-1) = some ⟨-1, 999999, by decide⟩ := by
  obtain ⟨-, -, -, -, hcount, -, hchecked⟩ :=
    unixNanos_embeds ⟨-1, 999999, by decide⟩ ⟨0, 0, by decide⟩ (-1)
  have hfits : FitsIn 16 (-1) := by decide
  exact ⟨hfits, hchecked hfits, hcount.mpr (by decide)⟩

end ThinClient.Timestamp
