import ThinClient.Proofs.Splitting
import ThinClient.Protocol.Version

/-!
# Numerals

The readers of decimal integers accept the numerals of their type and nothing else, and a numeral
has one value. What is printed of an integer is one of its numerals.

* `Decimal.IsDigits`, `Decimal.IsUnsigned` and `Decimal.IsSigned` say which texts are numerals, and
  of which number.
* `Decimal.readInt16_eq_some_iff` and its like: a reader gives the number of a numeral that its type
  can hold, and only that.
* `Version.read?_eq_some_iff`: a version is three such numerals with dots between them.
-/

namespace ThinClient

namespace Decimal

variable {cs : List Char} {n : Nat} {i : Int} {c : Char}

/-- At least one ASCII digit, which have this value in base ten. -/
structure IsDigits (cs : List Char) (n : Nat) : Prop where
  ne_nil : cs ≠ []
  isDigit : ∀ c ∈ cs, c.isDigit
  value : Nat.ofDigitChars 10 cs 0 = n

/-- Digits, perhaps with a plus sign in front. -/
inductive IsUnsigned : List Char → Nat → Prop
  | plain {cs : List Char} {n : Nat} (h : IsDigits cs n) : IsUnsigned cs n
  | plus {cs : List Char} {n : Nat} (h : IsDigits cs n) : IsUnsigned ('+' :: cs) n

/-- Digits, perhaps with a sign in front. -/
inductive IsSigned : List Char → Int → Prop
  | plain {cs : List Char} {n : Nat} (h : IsDigits cs n) : IsSigned cs n
  | plus {cs : List Char} {n : Nat} (h : IsDigits cs n) : IsSigned ('+' :: cs) n
  | minus {cs : List Char} {n : Nat} (h : IsDigits cs n) : IsSigned ('-' :: cs) (-n)

/-! ## Readers -/

theorem readDigits_eq_some_iff {soFar : Nat} :
    readDigits soFar cs = some n ↔
      (∀ c ∈ cs, c.isDigit) ∧ Nat.ofDigitChars 10 cs soFar = n := by
  induction cs generalizing soFar with
  | nil => simp [readDigits]
  | cons c cs ih =>
    have hdigit : c.isDigit ↔ '0' ≤ c ∧ c ≤ '9' := by
      rw [Char.isDigit, Bool.and_eq_true, decide_eq_true_iff, decide_eq_true_iff]
      rfl
    rw [readDigits, List.forall_mem_cons, hdigit, Nat.ofDigitChars_cons]
    split
    next h => simp [ih, h]
    next h => simp [h]

theorem readNat_eq_some_iff : readNat cs = some n ↔ IsDigits cs n := by
  unfold readNat
  split
  next h =>
    rw [List.isEmpty_iff] at h
    simp only [reduceCtorEq, false_iff]
    exact fun hdigits => hdigits.ne_nil h
  next h =>
    rw [List.isEmpty_iff] at h
    rw [readDigits_eq_some_iff]
    exact ⟨fun ⟨hdigit, hvalue⟩ => ⟨h, hdigit, hvalue⟩, fun ⟨_, hdigit, hvalue⟩ => ⟨hdigit, hvalue⟩⟩

theorem IsDigits.head_ne (h : IsDigits (c :: cs) n) : c ≠ '+' ∧ c ≠ '-' := by
  have hdigit := h.isDigit c List.mem_cons_self
  constructor
  · rintro rfl
    exact absurd hdigit (by decide)
  · rintro rfl
    exact absurd hdigit (by decide)

theorem readUnsigned_eq_some_iff : readUnsigned cs = some n ↔ IsUnsigned cs n := by
  unfold readUnsigned
  split
  next rest =>
    rw [readNat_eq_some_iff]
    refine ⟨.plus, fun h => ?_⟩
    cases h with
    | plain h => exact absurd rfl h.head_ne.1
    | plus h => exact h
  next hplus =>
    rw [readNat_eq_some_iff]
    refine ⟨.plain, fun h => ?_⟩
    cases h with
    | plain h => exact h
    | plus h => exact absurd rfl (hplus _)

theorem readSigned_eq_some_iff : readSigned cs = some i ↔ IsSigned cs i := by
  unfold readSigned
  split
  next rest =>
    simp only [Option.map_eq_some_iff, readNat_eq_some_iff]
    constructor
    · rintro ⟨n, h, rfl⟩
      exact .plus h
    · intro h
      cases h with
      | plain h => exact absurd rfl h.head_ne.1
      | plus h => exact ⟨_, h, rfl⟩
  next rest =>
    simp only [Option.map_eq_some_iff, readNat_eq_some_iff]
    constructor
    · rintro ⟨n, h, rfl⟩
      exact .minus h
    · intro h
      cases h with
      | plain h => exact absurd rfl h.head_ne.2
      | minus h => exact ⟨_, h, rfl⟩
  next hplus hminus =>
    simp only [Option.map_eq_some_iff, readNat_eq_some_iff]
    constructor
    · rintro ⟨n, h, rfl⟩
      exact .plain h
    · intro h
      cases h with
      | plain h => exact ⟨_, h, rfl⟩
      | plus h => exact absurd rfl (hplus _)
      | minus h => exact absurd rfl (hminus _)

theorem readWithin_eq_some_iff {least greatest : Int} :
    readWithin least greatest cs = some i ↔ IsSigned cs i ∧ least ≤ i ∧ i ≤ greatest := by
  simp only [readWithin, Option.filter_eq_some_iff, readSigned_eq_some_iff, decide_eq_true_iff]

theorem readInt16_eq_some_iff {x : Int16} : readInt16 cs = some x ↔ IsSigned cs x.toInt := by
  have hmin : Int16.minValue.toInt = -2 ^ 15 := rfl
  have hmax : Int16.maxValue.toInt = 2 ^ 15 - 1 := rfl
  simp only [readInt16, Option.map_eq_some_iff, readWithin_eq_some_iff, hmin, hmax]
  constructor
  · rintro ⟨n, ⟨hn, hle, hge⟩, rfl⟩
    rwa [Int16.toInt_ofInt_of_le hle (by omega)]
  · intro h
    have hlt := x.toInt_lt
    exact ⟨x.toInt, ⟨h, x.le_toInt, by omega⟩, Int16.ofInt_toInt x⟩

theorem readInt32_eq_some_iff {x : Int32} : readInt32 cs = some x ↔ IsSigned cs x.toInt := by
  have hmin : Int32.minValue.toInt = -2 ^ 31 := rfl
  have hmax : Int32.maxValue.toInt = 2 ^ 31 - 1 := rfl
  simp only [readInt32, Option.map_eq_some_iff, readWithin_eq_some_iff, hmin, hmax]
  constructor
  · rintro ⟨n, ⟨hn, hle, hge⟩, rfl⟩
    rwa [Int32.toInt_ofInt_of_le hle (by omega)]
  · intro h
    have hlt := x.toInt_lt
    exact ⟨x.toInt, ⟨h, x.le_toInt, by omega⟩, Int32.ofInt_toInt x⟩

theorem readBelow_eq_some_iff {bound : Nat} :
    readBelow bound cs = some n ↔ IsUnsigned cs n ∧ n < bound := by
  simp only [readBelow, Option.filter_eq_some_iff, readUnsigned_eq_some_iff, decide_eq_true_iff]

theorem readUInt16_eq_some_iff {x : UInt16} : readUInt16 cs = some x ↔ IsUnsigned cs x.toNat := by
  simp only [readUInt16, Option.map_eq_some_iff, readBelow_eq_some_iff]
  constructor
  · rintro ⟨n, ⟨hn, hlt⟩, rfl⟩
    rwa [UInt16.toNat_ofNat_of_lt' hlt]
  · intro h
    exact ⟨x.toNat, ⟨h, x.toNat_lt⟩, UInt16.ofNat_toNat⟩

theorem readNat64_eq_some_iff :
    readNat64 cs = some n ↔ IsUnsigned cs n ∧ n < UInt64.size :=
  readBelow_eq_some_iff

theorem readNat64_eq_none_iff : readNat64 cs = none ↔ ∀ x : UInt64, ¬ IsUnsigned cs x.toNat := by
  rw [Option.eq_none_iff_forall_ne_some]
  simp only [ne_eq, readNat64_eq_some_iff, not_and]
  constructor
  · exact fun h x hx => h x.toNat hx x.toNat_lt
  · intro h n hn hlt
    have hx := h (UInt64.ofNat n)
    rw [UInt64.toNat_ofNat_of_lt' hlt] at hx
    exact hx hn

/-! ## What is printed -/

theorem isDigits_toString (n : Nat) : IsDigits (toString n).toList n := by
  have htext : (toString n).toList = Nat.toDigits 10 n := Nat.toList_repr
  rw [htext]
  exact ⟨Nat.toDigits_ne_nil, fun c hc => Nat.isDigit_of_mem_toDigits (by decide) (by decide) hc,
    Nat.ofDigitChars_ten_toDigits⟩

theorem isSigned_toString (i : Int) : IsSigned (toString i).toList i := by
  cases i with
  | ofNat n => exact .plain (isDigits_toString n)
  | negSucc n =>
    have htext : (toString (Int.negSucc n)).toList = '-' :: (toString (n + 1)).toList := by
      change ("-" ++ (n + 1).repr).toList = _
      rw [String.toList_append]
      rfl
    rw [htext]
    exact .minus (isDigits_toString (n + 1))

/-- A numeral has only digits and signs. -/
theorem IsSigned.of_mem (h : IsSigned cs i) (hc : c ∈ cs) : c.isDigit ∨ c = '+' ∨ c = '-' := by
  cases h with
  | plain h => exact .inl (h.isDigit c hc)
  | plus h =>
    rcases List.mem_cons.mp hc with rfl | hc
    · exact .inr (.inl rfl)
    · exact .inl (h.isDigit c hc)
  | minus h =>
    rcases List.mem_cons.mp hc with rfl | hc
    · exact .inr (.inr rfl)
    · exact .inl (h.isDigit c hc)

/-- A character that is neither digit nor sign is in no numeral. -/
theorem IsSigned.not_mem (h : IsSigned cs i)
    (hc : ¬ (c.isDigit ∨ c = '+' ∨ c = '-')) : c ∉ cs :=
  fun hmem => hc (h.of_mem hmem)

end Decimal

namespace Version

open Decimal

/-- Three numerals with dots between them. -/
def IsText (cs : List Char) (v : Version) : Prop :=
  ∃ major minor patch, cs = major ++ '.' :: (minor ++ '.' :: patch) ∧
    IsSigned major v.major.toInt ∧ IsSigned minor v.minor.toInt ∧ IsSigned patch v.patch.toInt

theorem read?_eq_some_iff {cs : List Char} {v : Version} : read? cs = some v ↔ IsText cs v := by
  have hdot : ¬ (('.' : Char).isDigit ∨ '.' = '+' ∨ '.' = '-') := by decide
  simp only [read?, Option.bind_eq_bind, Option.bind_eq_some_iff, Option.pure_def,
    Option.some.injEq, readInt16_eq_some_iff]
  constructor
  · rintro ⟨⟨major, rest⟩, hfirst, ⟨minor, patch⟩, hsecond, a, ha, b, hb, c, hc, rfl⟩
    obtain ⟨rfl, -⟩ := Split.atFirst_eq_some_iff.mp hfirst
    obtain ⟨rfl, -⟩ := Split.atFirst_eq_some_iff.mp hsecond
    exact ⟨major, minor, patch, rfl, ha, hb, hc⟩
  · rintro ⟨major, minor, patch, rfl, ha, hb, hc⟩
    exact ⟨_, Split.atFirst_append _ (ha.not_mem hdot), _, Split.atFirst_append _ (hb.not_mem hdot),
      _, ha, _, hb, _, hc, rfl⟩

theorem isText_text (v : Version) : IsText v.text.toList v := by
  refine ⟨_, _, _, ?_, isSigned_toString v.major.toInt, isSigned_toString v.minor.toInt,
    isSigned_toString v.patch.toInt⟩
  simp only [text, String.toList_append, List.append_assoc]
  rfl

end Version

end ThinClient
