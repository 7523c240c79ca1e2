/-!
# Little-endian words

Every integer on the wire has a fixed number of octets, least significant first. This module holds
the one encoder and the one decoder all of them share, on `List UInt8`, and the class `Word` of
types that are carried that way.

* `LittleEndian.encode w n` is the `w` lowest octets of `n`.
* `LittleEndian.decode` is its inverse on the numbers that `w` octets can hold (`decode_encode`),
  and `encode` is the inverse of `decode` on octet strings of the same length (`encode_decode`).
* `Word α` says how many octets an `α` has and identifies `α` with the numbers that they can hold.
-/

namespace ThinClient

/-- Octets in the order in which they are on the wire. -/
abbrev Bytes := List UInt8

namespace LittleEndian

/-- The `w` lowest octets of a number, least significant first. -/
def encode : Nat → Nat → Bytes
  | 0, _ => []
  | w + 1, n => UInt8.ofNat n :: encode w (n / 256)

/-- The number whose octets these are, least significant first. -/
def decode : Bytes → Nat
  | [] => 0
  | b :: rest => b.toNat + 256 * decode rest

/-- How many numbers so many octets can hold. -/
def capacity : Nat → Nat
  | 0 => 1
  | w + 1 => 256 * capacity w

@[simp] theorem length_encode (w n : Nat) : (encode w n).length = w := by
  induction w generalizing n with
  | zero => rfl
  | succ w ih => simp [encode, ih]

theorem decode_lt (bs : Bytes) : decode bs < capacity bs.length := by
  induction bs with
  | nil => simp [decode, capacity]
  | cons b rest ih =>
    have hb : b.toNat < 256 := b.toNat_lt
    rw [decode, List.length_cons, capacity]
    omega

theorem decode_encode (w n : Nat) (h : n < capacity w) : decode (encode w n) = n := by
  induction w generalizing n with
  | zero =>
    rw [capacity] at h
    rw [encode, decode]
    omega
  | succ w ih =>
    have hlt : n / 256 < capacity w := Nat.div_lt_of_lt_mul h
    have hlow : (UInt8.ofNat n).toNat = n % 256 := UInt8.toNat_ofNat'
    rw [encode, decode, ih _ hlt, hlow]
    omega

theorem encode_decode (bs : Bytes) : encode bs.length (decode bs) = bs := by
  induction bs with
  | nil => rfl
  | cons b rest ih =>
    have hb : b.toNat < 256 := b.toNat_lt
    have hdiv : (b.toNat + 256 * decode rest) / 256 = decode rest := by omega
    have hlow : UInt8.ofNat (b.toNat + 256 * decode rest) = b := by
      apply UInt8.toNat_inj.mp
      rw [UInt8.toNat_ofNat']
      omega
    simp only [List.length_cons, encode, decode, hdiv, hlow, ih]

end LittleEndian

/-- Types whose values are the numbers that `width` octets can hold, and are carried as these. -/
class Word (α : Type) where
  /-- How many octets a value has. -/
  width : Nat
  /-- The number that stands for a value. -/
  toNat : α → Nat
  /-- The value a number stands for. -/
  ofNat : Nat → α
  toNat_lt : ∀ a, toNat a < LittleEndian.capacity width
  ofNat_toNat : ∀ a, ofNat (toNat a) = a
  toNat_ofNat : ∀ n, n < LittleEndian.capacity width → toNat (ofNat n) = n

namespace Word

/-- The octets of a word. -/
def encode {α : Type} [Word α] (a : α) : Bytes :=
  LittleEndian.encode (width α) (toNat a)

/-- The word whose octets these are. -/
def decode (α : Type) [Word α] (bs : Bytes) : α :=
  ofNat (LittleEndian.decode bs)

@[simp] theorem length_encode {α : Type} [Word α] (a : α) : (encode a).length = width α :=
  LittleEndian.length_encode _ _

@[simp] theorem decode_encode {α : Type} [Word α] (a : α) : decode α (encode a) = a := by
  rw [decode, encode, LittleEndian.decode_encode _ _ (toNat_lt a), ofNat_toNat]

theorem encode_decode {α : Type} [Word α] (bs : Bytes) (h : bs.length = width α) :
    encode (decode α bs) = bs := by
  rw [encode, decode, toNat_ofNat _ (h ▸ LittleEndian.decode_lt bs), ← h,
    LittleEndian.encode_decode]

instance : Word UInt8 where
  width := 1
  toNat := UInt8.toNat
  ofNat := UInt8.ofNat
  toNat_lt a := a.toNat_lt
  ofNat_toNat _ := UInt8.ofNat_toNat
  toNat_ofNat _ h := UInt8.toNat_ofNat_of_lt' h

instance : Word UInt16 where
  width := 2
  toNat := UInt16.toNat
  ofNat := UInt16.ofNat
  toNat_lt a := a.toNat_lt
  ofNat_toNat _ := UInt16.ofNat_toNat
  toNat_ofNat _ h := UInt16.toNat_ofNat_of_lt' h

instance : Word UInt32 where
  width := 4
  toNat := UInt32.toNat
  ofNat := UInt32.ofNat
  toNat_lt a := a.toNat_lt
  ofNat_toNat _ := UInt32.ofNat_toNat
  toNat_ofNat _ h := UInt32.toNat_ofNat_of_lt' h

instance : Word UInt64 where
  width := 8
  toNat := UInt64.toNat
  ofNat := UInt64.ofNat
  toNat_lt a := a.toNat_lt
  ofNat_toNat _ := UInt64.ofNat_toNat
  toNat_ofNat _ h := UInt64.toNat_ofNat_of_lt' h

instance : Word Int8 where
  width := 1
  toNat a := a.toUInt8.toNat
  ofNat n := (UInt8.ofNat n).toInt8
  toNat_lt a := a.toUInt8.toNat_lt
  ofNat_toNat a := by simp
  toNat_ofNat _ h := by simpa using UInt8.toNat_ofNat_of_lt' h

instance : Word Int16 where
  width := 2
  toNat a := a.toUInt16.toNat
  ofNat n := (UInt16.ofNat n).toInt16
  toNat_lt a := a.toUInt16.toNat_lt
  ofNat_toNat a := by simp
  toNat_ofNat _ h := by simpa using UInt16.toNat_ofNat_of_lt' h

instance : Word Int32 where
  width := 4
  toNat a := a.toUInt32.toNat
  ofNat n := (UInt32.ofNat n).toInt32
  toNat_lt a := a.toUInt32.toNat_lt
  ofNat_toNat a := by simp
  toNat_ofNat _ h := by simpa using UInt32.toNat_ofNat_of_lt' h

instance : Word Int64 where
  width := 8
  toNat a := a.toUInt64.toNat
  ofNat n := (UInt64.ofNat n).toInt64
  toNat_lt a := a.toUInt64.toNat_lt
  ofNat_toNat a := by simp
  toNat_ofNat _ h := by simpa using UInt64.toNat_ofNat_of_lt' h

end Word

end ThinClient
