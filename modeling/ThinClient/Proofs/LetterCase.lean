import Mathlib
import ThinClient.Proofs.Query.Columns

/-!
# Names in upper and lower case

A column is looked up by a name where upper and lower case of ASCII letters count as the same. A
type or a field is known by an id, for which its name is lower-cased by the rules of Unicode. These
go further, and what they make of a sigma depends on the letters around it, so it is not plain that
two spellings of a column never get two ids.

* `SameLetter` are two characters that count as the same, and `equalIgnoringCase_iff` says that
  texts count as the same if their characters do, one by one.
* `LowerCase.chars_map_toLower`: lower-casing comes to the same if ASCII letters are lower-cased
  before. Such a letter is cased and never skipped in either case, so the ends of words stay where
  they are.
* `nameId_eq_of_sameLetters`: **names that count as the same have one id**, and are the same to every
  row.
-/

namespace ThinClient

/-! ## Letters that count as the same -/

/-- Whether two characters are the same, or an ASCII letter in upper and in lower case. -/
def SameLetter (c d : Char) : Prop :=
  c = d ∨ c.isUpper ∧ d = Char.ofNat (c.toNat + 32) ∨ d.isUpper ∧ c = Char.ofNat (d.toNat + 32)

/-- An ASCII letter in upper case and in lower case, by their code points. -/
theorem toNat_of_isUpper {c : Char} (h : c.isUpper) :
    65 ≤ c.toNat ∧ c.toNat ≤ 90 ∧ c.toLower.toNat = c.toNat + 32 := by
  have hbounds : 65 ≤ c.toNat ∧ c.toNat ≤ 90 := by
    simpa [Char.isUpper, UInt32.le_iff_toNat_le] using h
  refine ⟨hbounds.1, hbounds.2, ?_⟩
  rw [Char.toLower_eq_of_isUpper h, Char.toNat_ofNat, if_pos]
  exact .inl (by omega)

theorem eq_of_toLower_eq {c d : Char} (hc : c.isUpper) (hd : d.isUpper)
    (h : c.toLower = d.toLower) : c = d := by
  obtain ⟨-, -, hlower⟩ := toNat_of_isUpper hc
  obtain ⟨-, -, hlower'⟩ := toNat_of_isUpper hd
  have hsame : c.toNat = d.toNat := by
    rw [h] at hlower
    omega
  rw [← Char.ofNat_toNat c, hsame, Char.ofNat_toNat]

theorem toLower_eq_toLower_iff {c d : Char} : c.toLower = d.toLower ↔ SameLetter c d := by
  constructor
  · intro h
    by_cases hc : c.isUpper <;> by_cases hd : d.isUpper
    · exact .inl (eq_of_toLower_eq hc hd h)
    · rw [Char.toLower_eq_of_not_isUpper hd, Char.toLower_eq_of_isUpper hc] at h
      exact .inr (.inl ⟨hc, h.symm⟩)
    · rw [Char.toLower_eq_of_not_isUpper hc, Char.toLower_eq_of_isUpper hd] at h
      exact .inr (.inr ⟨hd, h⟩)
    · rw [Char.toLower_eq_of_not_isUpper hc, Char.toLower_eq_of_not_isUpper hd] at h
      exact .inl h
  · rintro (rfl | ⟨hc, rfl⟩ | ⟨hd, rfl⟩)
    · rfl
    · rw [← Char.toLower_eq_of_isUpper hc, Char.toLower_toLower_eq_toLower]
    · rw [← Char.toLower_eq_of_isUpper hd, Char.toLower_toLower_eq_toLower]

theorem equalIgnoringCase_iff_map {s t : String} :
    equalIgnoringCase s t ↔ s.toList.map Char.toLower = t.toList.map Char.toLower := by
  rw [equalIgnoringCase, beq_iff_eq]

/-- Texts count as the same if their characters do, one by one; all but ASCII letters are the
same then. -/
theorem equalIgnoringCase_iff {s t : String} :
    equalIgnoringCase s t ↔ List.Forall₂ SameLetter s.toList t.toList := by
  rw [equalIgnoringCase_iff_map, ← List.forall₂_eq_eq_eq, List.forall₂_map_left_iff,
    List.forall₂_map_right_iff]
  simp only [toLower_eq_toLower_iff]

theorem equalIgnoringCase_congr {s t : String} (h : equalIgnoringCase s t) (n : String) :
    equalIgnoringCase s n ↔ equalIgnoringCase t n := by
  rw [equalIgnoringCase_iff_map] at h
  rw [equalIgnoringCase_iff_map, equalIgnoringCase_iff_map, h]

namespace LowerCase

open Letters

variable {ranges : List (Nat × Nat)} {n : Nat} {c d : Char}

/-! ## ASCII letters in the tables -/

theorem inRanges_of_mem {r : Nat × Nat} (hr : r ∈ ranges) (hfirst : r.1 ≤ n) (hlast : n ≤ r.2) :
    inRanges ranges n = true :=
  List.any_eq_true.mpr ⟨r, hr, by simp [hfirst, hlast]⟩

theorem inRanges_eq_false (h : ∀ r ∈ ranges, n < r.1 ∨ r.2 < n) : inRanges ranges n = false := by
  refine List.any_eq_false.mpr fun r hr => ?_
  have := h r hr
  simp only [Bool.and_eq_true, decide_eq_true_eq]
  omega

theorem upper_mem_casedRanges : (65, 90) ∈ casedRanges :=
  List.mem_cons_self

theorem lower_mem_casedRanges : (97, 122) ∈ casedRanges :=
  List.mem_cons_of_mem _ List.mem_cons_self

/-- The ranges of characters that are skipped leave the ASCII letters out. -/
theorem around_of_mem_ignorableRanges :
    ∀ r ∈ ignorableRanges, r.2 < 65 ∨ 90 < r.1 ∧ r.2 < 97 ∨ 122 < r.1 := by
  decide +kernel

/-- The runs of characters with a partner leave the ASCII letters in lower case out. -/
theorem around_of_mem_lowerRuns : ∀ r ∈ lowerRuns, r.last < 97 ∨ 122 < r.first := by
  decide +kernel

/-- An ASCII letter is cased, whichever case it has. -/
theorem isCased_toLower (c : Char) : isCased c.toLower = isCased c := by
  by_cases hc : c.isUpper
  · obtain ⟨hfirst, hlast, hlower⟩ := toNat_of_isUpper hc
    have hupper : isCased c = true := inRanges_of_mem upper_mem_casedRanges hfirst hlast
    rw [hupper, isCased, hlower]
    exact inRanges_of_mem lower_mem_casedRanges (by dsimp only; omega) (by dsimp only; omega)
  · rw [Char.toLower_eq_of_not_isUpper hc]

/-- An ASCII letter is never skipped. -/
theorem isIgnorable_toLower (c : Char) : isIgnorable c.toLower = isIgnorable c := by
  by_cases hc : c.isUpper
  · obtain ⟨hfirst, hlast, hlower⟩ := toNat_of_isUpper hc
    have hnever {n : Nat} (hn : 65 ≤ n ∧ n ≤ 90 ∨ 97 ≤ n ∧ n ≤ 122) :
        inRanges ignorableRanges n = false := by
      refine inRanges_eq_false fun r hr => ?_
      have := around_of_mem_ignorableRanges r hr
      omega
    rw [isIgnorable, isIgnorable, hlower, hnever (by omega), hnever (by omega)]
  · rw [Char.toLower_eq_of_not_isUpper hc]

theorem partner_of_isUpper (hc : c.isUpper) : partner c = c.toLower := by
  obtain ⟨hfirst, hlast, -⟩ := toNat_of_isUpper hc
  have hfind : lowerRuns.find? (fun r => r.covers c.toNat) = some ⟨65, 90, 1, 32, 0⟩ := by
    refine List.find?_cons_of_pos ?_
    simp [LowerRun.covers, hfirst, hlast, Nat.mod_one]
  rw [partner, hfind, Char.toLower_eq_of_isUpper hc]
  rfl

/-- An ASCII letter in lower case has no partner but itself. -/
theorem partner_of_lower (hfirst : 97 ≤ c.toNat) (hlast : c.toNat ≤ 122) : partner c = c := by
  have hfind : lowerRuns.find? (fun r => r.covers c.toNat) = none := by
    refine List.find?_eq_none.mpr fun r hr => ?_
    have := around_of_mem_lowerRuns r hr
    simp only [LowerRun.covers, Bool.and_eq_true, decide_eq_true_eq]
    omega
  rw [partner, hfind]

theorem partner_toLower (c : Char) : partner c.toLower = partner c := by
  by_cases hc : c.isUpper
  · obtain ⟨hfirst, hlast, hlower⟩ := toNat_of_isUpper hc
    rw [partner_of_isUpper hc]
    exact partner_of_lower (by omega) (by omega)
  · rw [Char.toLower_eq_of_not_isUpper hc]

/-- Lower-casing an ASCII letter gives an ASCII letter, so it gives no other character. -/
theorem toLower_eq_iff (hd : 122 < d.toNat) : c.toLower = d ↔ c = d := by
  by_cases hc : c.isUpper
  · obtain ⟨-, hlast, hlower⟩ := toNat_of_isUpper hc
    constructor
    · rintro rfl
      omega
    · rintro rfl
      omega
  · rw [Char.toLower_eq_of_not_isUpper hc]

/-! ## Whole texts -/

theorem meetsCased_map_toLower (cs : List Char) :
    meetsCased (cs.map Char.toLower) = meetsCased cs := by
  have hskip : isIgnorable ∘ Char.toLower = isIgnorable := funext isIgnorable_toLower
  unfold meetsCased
  rw [List.dropWhile_map, hskip]
  cases cs.dropWhile isIgnorable with
  | nil => rfl
  | cons c rest => exact isCased_toLower c

/-- A word ends where it ends, whichever case ASCII letters have. -/
theorem endsWord_map_toLower (before after : List Char) :
    endsWord (before.map Char.toLower) (after.map Char.toLower) = endsWord before after := by
  rw [endsWord, endsWord, meetsCased_map_toLower, meetsCased_map_toLower]

/-- **Lower-casing comes to the same if ASCII letters are lower-cased before.** -/
theorem chars_map_toLower (before cs : List Char) :
    chars (before.map Char.toLower) (cs.map Char.toLower) = chars before cs := by
  -- The two characters that are not lower-cased by the table are no ASCII letters.
  have hsigma : 122 < '\u03a3'.toNat := by decide
  have hdotted : 122 < '\u0130'.toNat := by decide
  induction cs generalizing before with
  | nil => rfl
  | cons c rest ih =>
    have hrest := ih (c :: before)
    rw [List.map_cons] at hrest
    simp only [List.map_cons, chars, toLower_eq_iff hsigma, toLower_eq_iff hdotted,
      endsWord_map_toLower, partner_toLower, hrest]

theorem text_eq_of_equalIgnoringCase {s t : String} (h : equalIgnoringCase s t) :
    text s = text t := by
  have hchars : chars [] s.toList = chars [] t.toList := by
    rw [← chars_map_toLower [] s.toList, equalIgnoringCase_iff_map.mp h]
    exact chars_map_toLower [] t.toList
  rw [text, text, hchars]

end LowerCase

/-! ## Names and ids -/

theorem nameId_eq_of_text_eq {s t : String} (h : LowerCase.text s = LowerCase.text t) :
    nameId s = nameId t := by
  rw [nameId, nameId, h]

/-- Names that count as the same name the same column of a row, or none. -/
theorem Row.isFirst_congr {s t : String} (h : equalIgnoringCase s t) (row : Row) (i : Nat) :
    row.IsFirst s i ↔ row.IsFirst t i := by
  simp only [IsFirst, equalIgnoringCase_congr h]

/-- **Names that count as the same have one id.** They find the same column of every row, and the
name of that column has this id too. -/
theorem nameId_eq_of_sameLetters {s t : String} (h : List.Forall₂ SameLetter s.toList t.toList) :
    nameId s = nameId t ∧
    ∀ (row : Row) (i : Nat),
      (row.position (.name s) = .ok i ↔ row.position (.name t) = .ok i) ∧
      (row.position (.name s) = .ok i → ∃ n, row.names[i]? = some n ∧ nameId n = nameId s) := by
  have hsame := equalIgnoringCase_iff.mpr h
  refine ⟨nameId_eq_of_text_eq (LowerCase.text_eq_of_equalIgnoringCase hsame),
    fun row i => ⟨?_, fun hposition => ?_⟩⟩
  · rw [Row.position_name_eq_ok_iff, Row.position_name_eq_ok_iff]
    exact Row.isFirst_congr hsame row i
  · obtain ⟨hi, hfound, -⟩ := Row.position_name_eq_ok_iff.mp hposition
    have htext := LowerCase.text_eq_of_equalIgnoringCase hfound
    exact ⟨_, List.getElem?_eq_getElem hi, (nameId_eq_of_text_eq htext).symm⟩

/-- The sigma is final in both spellings, since a letter stands before it and none behind. -/
theorem nameId_eq_of_sameLetters_odos :
    List.Forall₂ SameLetter "ODOΣ".toList "odoΣ".toList ∧
      LowerCase.text "odoΣ" = "odoς" ∧ nameId "ODOΣ" = nameId "odoΣ" ∧
      Row.position ⟨["ID", "ODOΣ"], [.null, .null]⟩ (.name "odoΣ") = .ok 1 := by
  have hletters : List.Forall₂ SameLetter "ODOΣ".toList "odoΣ".toList :=
    equalIgnoringCase_iff.mp (by decide)
  obtain ⟨hid, hrow⟩ := nameId_eq_of_sameLetters hletters
  have hfound : Row.position ⟨["ID", "ODOΣ"], [.null, .null]⟩ (.name "ODOΣ") = .ok 1 := by cbv
  exact ⟨hletters, by decide +kernel, hid, (hrow _ 1).1.mp hfound⟩

end ThinClient
