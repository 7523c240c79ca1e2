import Mathlib
import ThinClient.Text.Utf8

/-!
# UTF-8 read back

`decode_encode`: the octets of a text are the octets of that text and of no other, and the reader
takes them.  The work is done one character at a time: `decodeFrom_encodeChar` reads the one, two,
three or four octets of a character wherever they stand, since the writer's form is the short one
and a `Char` is never a surrogate.

`encode_of_decode`: the reader takes nothing else, because the octets that it lets follow a lead
octet (`second_range`) leave no second way to write a character.
-/

namespace ThinClient.Utf8

/-! ## Classes of octets -/

/-- An octet as the number it is, where that number is known. -/
theorem toNat_ofNat_of_lt {n : Nat} (h : n < 256) : (UInt8.ofNat n).toNat = n :=
  UInt8.toNat_ofNat_of_lt' h

theorem sequenceLength_one {n : Nat} (h : n < 0x80) :
    sequenceLength (UInt8.ofNat n) = some 1 := by
  have hn := toNat_ofNat_of_lt (n := n) (by omega)
  simp only [sequenceLength, UInt8.lt_iff_toNat_lt, hn, UInt8.reduceToNat]
  rw [if_pos h]

theorem sequenceLength_two {n : Nat} (hlow : 2 ≤ n) (h : n < 32) :
    sequenceLength (UInt8.ofNat (n + 0xc0)) = some 2 := by
  have hn := toNat_ofNat_of_lt (n := n + 0xc0) (by omega)
  simp only [sequenceLength, UInt8.lt_iff_toNat_lt, hn, UInt8.reduceToNat]
  rw [if_neg (by omega), if_neg (by omega), if_pos (by omega)]

theorem sequenceLength_three {n : Nat} (h : n < 16) :
    sequenceLength (UInt8.ofNat (n + 0xe0)) = some 3 := by
  have hn := toNat_ofNat_of_lt (n := n + 0xe0) (by omega)
  simp only [sequenceLength, UInt8.lt_iff_toNat_lt, hn, UInt8.reduceToNat]
  rw [if_neg (by omega), if_neg (by omega), if_neg (by omega), if_pos (by omega)]

theorem sequenceLength_four {n : Nat} (h : n < 5) :
    sequenceLength (UInt8.ofNat (n + 0xf0)) = some 4 := by
  have hn := toNat_ofNat_of_lt (n := n + 0xf0) (by omega)
  simp only [sequenceLength, UInt8.lt_iff_toNat_lt, hn, UInt8.reduceToNat]
  rw [if_neg (by omega), if_neg (by omega), if_neg (by omega), if_neg (by omega),
    if_pos (by omega)]

theorem isContinuation_ofNat {n : Nat} (h : n < 64) :
    isContinuation (UInt8.ofNat (n + 0x80)) = true := by
  have hn := toNat_ofNat_of_lt (n := n + 0x80) (by omega)
  simp only [isContinuation, UInt8.lt_iff_toNat_lt, UInt8.le_iff_toNat_le, hn, UInt8.reduceToNat,
    Bool.and_eq_true, decide_eq_true_eq]
  omega

theorem payload_ofNat {n : Nat} (h : n < 64) : payload (UInt8.ofNat (n + 0x80)) = n := by
  rw [payload, toNat_ofNat_of_lt (by omega)]
  omega

/-- A second octet is right if the two lead it stands behind leave no shorter form, no surrogate
and nothing above the last code point. -/
theorem isSecond_ofNat {a n : Nat} (ha : a < 256) (h : n < 64)
    (he0 : a = 0xe0 → 0x20 ≤ n) (hed : a = 0xed → n < 0x20) (hf0 : a = 0xf0 → 0x10 ≤ n)
    (hf4 : a = 0xf4 → n < 0x10) :
    isSecond (UInt8.ofNat a) (UInt8.ofNat (n + 0x80)) = true := by
  have hlead := toNat_ofNat_of_lt ha
  have hn := toNat_ofNat_of_lt (n := n + 0x80) (by omega)
  simp only [isSecond, isContinuation, ← UInt8.toNat_inj, UInt8.lt_iff_toNat_lt,
    UInt8.le_iff_toNat_le, hlead, hn, UInt8.reduceToNat]
  split
  · simp; omega
  split
  · simp; omega
  split
  · simp; omega
  split
  · simp; omega
  simp; omega

/-! ## Sequences -/

section Sequences

variable {a b c d : UInt8} {start : Nat} {rest : Bytes}

theorem decodeFrom_one (ha : sequenceLength a = some 1) :
    decodeFrom start (a :: rest) = (decodeFrom (start + 1) rest).map (Char.ofNat a.toNat :: ·) := by
  rw [decodeFrom.eq_def]
  simp only [ha]

theorem decodeFrom_two (ha : sequenceLength a = some 2) (hb : isSecond a b = true) :
    decodeFrom start (a :: b :: rest) =
      (decodeFrom (start + 2) rest).map (Char.ofNat (a.toNat % 32 * 64 + payload b) :: ·) := by
  rw [decodeFrom.eq_def]
  simp only [ha, hb, if_true]

theorem decodeFrom_three (ha : sequenceLength a = some 3) (hb : isSecond a b = true)
    (hc : isContinuation c = true) :
    decodeFrom start (a :: b :: c :: rest) = (decodeFrom (start + 3) rest).map
      (Char.ofNat ((a.toNat % 16 * 64 + payload b) * 64 + payload c) :: ·) := by
  rw [decodeFrom.eq_def]
  simp only [ha, hb, hc, if_true]

theorem decodeFrom_four (ha : sequenceLength a = some 4) (hb : isSecond a b = true)
    (hc : isContinuation c = true) (hd : isContinuation d = true) :
    decodeFrom start (a :: b :: c :: d :: rest) = (decodeFrom (start + 4) rest).map
      (Char.ofNat (((a.toNat % 8 * 64 + payload b) * 64 + payload c) * 64 + payload d) :: ·) := by
  rw [decodeFrom.eq_def]
  simp only [ha, hb, hc, hd, if_true]

end Sequences

/-! ## Characters and texts -/

theorem decodeFrom_encodeChar (c : Char) (start : Nat) (rest : Bytes) :
    decodeFrom start (String.utf8EncodeChar c ++ rest) =
      (decodeFrom (start + (String.utf8EncodeChar c).length) rest).map (c :: ·) := by
  have hvalid : c.val.toNat < 0xd800 ∨ 0xdfff < c.val.toNat ∧ c.val.toNat < 0x110000 := c.valid
  have hc : Char.ofNat c.val.toNat = c := Char.ofNat_toNat c
  unfold String.utf8EncodeChar
  generalize c.val.toNat = v at hvalid hc ⊢
  dsimp only
  -- the four ranges of code points, by the length of their form
  split_ifs with hone htwo hthree
  · have hnum : (UInt8.ofNat v).toNat = v := toNat_ofNat_of_lt (by omega)
    rw [List.singleton_append, decodeFrom_one (sequenceLength_one (by omega)), hnum, hc]
    rfl
  · have hnum : (v / 64 % 32 + 192) % 32 * 64 + v % 64 = v := by omega
    rw [List.cons_append, List.singleton_append,
      decodeFrom_two (sequenceLength_two (by omega) (by omega))
        (isSecond_ofNat (by omega) (by omega) (by omega) (by omega) (by omega) (by omega)),
      payload_ofNat (by omega), toNat_ofNat_of_lt (by omega), hnum, hc]
    rfl
  · have hnum : ((v / 4096 % 16 + 224) % 16 * 64 + v / 64 % 64) * 64 + v % 64 = v := by omega
    rw [List.cons_append, List.cons_append, List.singleton_append,
      decodeFrom_three (sequenceLength_three (by omega))
        (isSecond_ofNat (by omega) (by omega) (by omega) (by omega) (by omega) (by omega))
        (isContinuation_ofNat (by omega)),
      payload_ofNat (by omega), payload_ofNat (by omega), toNat_ofNat_of_lt (by omega), hnum, hc]
    rfl
  · have hnum : (((v / 262144 % 8 + 240) % 8 * 64 + v / 4096 % 64) * 64 + v / 64 % 64) * 64 +
        v % 64 = v := by omega
    rw [List.cons_append, List.cons_append, List.cons_append, List.singleton_append,
      decodeFrom_four (sequenceLength_four (by omega))
        (isSecond_ofNat (by omega) (by omega) (by omega) (by omega) (by omega) (by omega))
        (isContinuation_ofNat (by omega)) (isContinuation_ofNat (by omega)),
      payload_ofNat (by omega), payload_ofNat (by omega), payload_ofNat (by omega),
      toNat_ofNat_of_lt (by omega), hnum, hc]
    rfl

theorem decodeFrom_encodeChars (cs : List Char) (start : Nat) :
    decodeFrom start (encodeChars cs) = .ok cs := by
  induction cs generalizing start with
  | nil => rw [encodeChars, List.flatMap_nil, decodeFrom]
  | cons c cs ih =>
    have hcons : encodeChars (c :: cs) = String.utf8EncodeChar c ++ encodeChars cs :=
      List.flatMap_cons
    rw [hcons, decodeFrom_encodeChar, ih]
    rfl

@[simp] theorem decode_encode (s : String) : decode (encode s) = .ok s := by
  rw [decode, encode, decodeFrom_encodeChars]
  simp [Except.map]

/-! ## Octets that are read -/

theorem lead_range {a : UInt8} {n : Nat} (h : sequenceLength a = some n) :
    n = 1 ∧ a.toNat < 0x80 ∨ n = 2 ∧ 0xc2 ≤ a.toNat ∧ a.toNat < 0xe0 ∨
      n = 3 ∧ 0xe0 ≤ a.toNat ∧ a.toNat < 0xf0 ∨ n = 4 ∧ 0xf0 ≤ a.toNat ∧ a.toNat < 0xf5 := by
  simp only [sequenceLength, UInt8.lt_iff_toNat_lt, UInt8.reduceToNat] at h
  split_ifs at h <;> cases h <;> omega

theorem continuation_range {b : UInt8} (h : isContinuation b = true) :
    0x80 ≤ b.toNat ∧ b.toNat < 0xc0 := by
  simpa [isContinuation, UInt8.lt_iff_toNat_lt, UInt8.le_iff_toNat_le] using h

/-- A second octet leaves no shorter form, no surrogate and nothing above the last code point. -/
theorem second_range {a b : UInt8} (h : isSecond a b = true) :
    (0x80 ≤ b.toNat ∧ b.toNat < 0xc0) ∧ (a.toNat = 0xe0 → 0xa0 ≤ b.toNat) ∧
      (a.toNat = 0xed → b.toNat < 0xa0) ∧ (a.toNat = 0xf0 → 0x90 ≤ b.toNat) ∧
      (a.toNat = 0xf4 → b.toNat < 0x90) := by
  simp only [isSecond, isContinuation, ← UInt8.toNat_inj, UInt8.lt_iff_toNat_lt,
    UInt8.le_iff_toNat_le, UInt8.reduceToNat] at h
  split_ifs at h <;> simp only [Bool.and_eq_true, decide_eq_true_eq] at h <;> omega

/-- An octet is known by its number. -/
theorem ofNat_eq_of_toNat {a : UInt8} {n : Nat} (h : n = a.toNat) : UInt8.ofNat n = a := by
  rw [h, UInt8.ofNat_toNat]

theorem toNat_ofNat_of_valid {v : Nat} (h : v < 0xd800 ∨ 0xdfff < v ∧ v < 0x110000) :
    (Char.ofNat v).val.toNat = v := by
  have hvalid : v.isValidChar := h
  rw [Char.ofNat, dif_pos hvalid]
  rfl

section EncodeChar

variable {a b c d : UInt8}

theorem encodeChar_one (ha : sequenceLength a = some 1) :
    String.utf8EncodeChar (Char.ofNat a.toNat) = [a] := by
  have hlead : a.toNat < 0x80 := by have := lead_range ha; omega
  unfold String.utf8EncodeChar
  dsimp only
  rw [toNat_ofNat_of_valid (by omega), if_pos (by omega), UInt8.ofNat_toNat]

theorem encodeChar_two (ha : sequenceLength a = some 2) (hb : isSecond a b = true) :
    String.utf8EncodeChar (Char.ofNat (a.toNat % 32 * 64 + payload b)) = [a, b] := by
  have hlead : 0xc2 ≤ a.toNat ∧ a.toNat < 0xe0 := by have := lead_range ha; omega
  have hsecond := (second_range hb).1
  unfold String.utf8EncodeChar payload
  dsimp only
  rw [toNat_ofNat_of_valid (by omega), if_neg (by omega), if_pos (by omega),
    ofNat_eq_of_toNat (a := a) (by omega), ofNat_eq_of_toNat (a := b) (by omega)]

theorem encodeChar_three (ha : sequenceLength a = some 3) (hb : isSecond a b = true)
    (hc : isContinuation c = true) :
    String.utf8EncodeChar (Char.ofNat ((a.toNat % 16 * 64 + payload b) * 64 + payload c)) =
      [a, b, c] := by
  have hlead : 0xe0 ≤ a.toNat ∧ a.toNat < 0xf0 := by have := lead_range ha; omega
  have hsecond := second_range hb
  have hthird := continuation_range hc
  unfold String.utf8EncodeChar payload
  dsimp only
  rw [toNat_ofNat_of_valid (by omega), if_neg (by omega), if_neg (by omega), if_pos (by omega),
    ofNat_eq_of_toNat (a := a) (by omega), ofNat_eq_of_toNat (a := b) (by omega),
    ofNat_eq_of_toNat (a := c) (by omega)]

theorem encodeChar_four (ha : sequenceLength a = some 4) (hb : isSecond a b = true)
    (hc : isContinuation c = true) (hd : isContinuation d = true) :
    String.utf8EncodeChar (Char.ofNat
      (((a.toNat % 8 * 64 + payload b) * 64 + payload c) * 64 + payload d)) = [a, b, c, d] := by
  have hlead : 0xf0 ≤ a.toNat ∧ a.toNat < 0xf5 := by have := lead_range ha; omega
  have hsecond := second_range hb
  have hthird := continuation_range hc
  have hfourth := continuation_range hd
  unfold String.utf8EncodeChar payload
  dsimp only
  rw [toNat_ofNat_of_valid (by omega), if_neg (by omega), if_neg (by omega), if_neg (by omega),
    ofNat_eq_of_toNat (a := a) (by omega), ofNat_eq_of_toNat (a := b) (by omega),
    ofNat_eq_of_toNat (a := c) (by omega), ofNat_eq_of_toNat (a := d) (by omega)]

end EncodeChar

theorem map_eq_ok {ε α β : Type} {x : Except ε α} {f : α → β} {b : β} (h : x.map f = .ok b) :
    ∃ a, x = .ok a ∧ f a = b := by
  cases x with
  | error e => cases h
  | ok a => exact ⟨a, rfl, Except.ok.inj h⟩

/-- The octets that are read as characters are the octets of these characters. -/
theorem encodeChars_of_decodeFrom {start : Nat} {bs : Bytes} {cs : List Char}
    (h : decodeFrom start bs = .ok cs) : encodeChars cs = bs := by
  fun_induction decodeFrom start bs generalizing cs with
  | case1 => cases h; rfl
  | case2 start a rest ha ih =>
    obtain ⟨cs, hcs, rfl⟩ := map_eq_ok h
    rw [encodeChars, List.flatMap_cons, encodeChar_one ha, ← encodeChars, ih hcs]
    rfl
  | case4 start a ha b rest hb ih =>
    obtain ⟨cs, hcs, rfl⟩ := map_eq_ok h
    rw [encodeChars, List.flatMap_cons, encodeChar_two ha hb, ← encodeChars, ih hcs]
    rfl
  | case8 start a ha b hb c rest hc ih =>
    obtain ⟨cs, hcs, rfl⟩ := map_eq_ok h
    rw [encodeChars, List.flatMap_cons, encodeChar_three ha hb hc, ← encodeChars, ih hcs]
    rfl
  | case14 start a n h1 h2 h3 ha b hb c hc d rest hd ih =>
    obtain ⟨cs, hcs, rfl⟩ := map_eq_ok h
    have hrange := lead_range ha
    have hlong : n ≠ 1 ∧ n ≠ 2 ∧ n ≠ 3 := ⟨h1, h2, h3⟩
    obtain rfl : n = 4 := by omega
    rw [encodeChars, List.flatMap_cons, encodeChar_four ha hb hc hd, ← encodeChars, ih hcs]
    rfl
  | _ => cases h

theorem encode_of_decode {bs : Bytes} {s : String} (h : decode bs = .ok s) : encode s = bs := by
  obtain ⟨cs, hcs, rfl⟩ := map_eq_ok h
  rw [encode, String.toList_ofList, encodeChars_of_decodeFrom hcs]

end ThinClient.Utf8
