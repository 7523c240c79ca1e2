import ThinClient.Bytes.LittleEndian

/-!
# Universally unique identifiers

An identifier is two 64-bit halves, the more significant one first. On the wire each half is a
little-endian word, so the identifier as a whole is a word of sixteen octets whose more
significant half stands in the lower octets.
-/

namespace ThinClient

/-- An identifier of 128 bits. -/
structure Uuid where
  high : UInt64
  low : UInt64
  deriving DecidableEq, Repr

namespace Uuid

/-- The hexadecimal digits of a number, most significant first, padded to a width. -/
def hexDigits : Nat → Nat → List Char
  | 0, _ => []
  | w + 1, n => hexDigits w (n / 16) ++ [Nat.digitChar (n % 16)]

/-- The usual text of an identifier: hexadecimal digits in groups of 8, 4, 4, 4 and 12. -/
def text (u : Uuid) : String :=
  let ds := hexDigits 16 u.high.toNat ++ hexDigits 16 u.low.toNat
  String.ofList <|
    ds.take 8 ++ '-' :: (ds.drop 8).take 4 ++ '-' :: (ds.drop 12).take 4 ++
      '-' :: (ds.drop 16).take 4 ++ '-' :: ds.drop 20

/-- The number that an identifier is on the wire. -/
def toNumber (u : Uuid) : Nat :=
  u.high.toNat + UInt64.size * u.low.toNat

/-- The identifier that is this number on the wire. -/
def ofNumber (n : Nat) : Uuid :=
  ⟨UInt64.ofNat n, UInt64.ofNat (n / UInt64.size)⟩

theorem toNumber_lt (u : Uuid) : u.toNumber < LittleEndian.capacity 16 := by
  have hh : u.high.toNat < UInt64.size := u.high.toNat_lt
  have hl : u.low.toNat < UInt64.size := u.low.toNat_lt
  simp only [toNumber, LittleEndian.capacity, UInt64.size] at *
  omega

theorem ofNumber_toNumber (u : Uuid) : ofNumber u.toNumber = u := by
  have hh : u.high.toNat < UInt64.size := u.high.toNat_lt
  have hlow : u.toNumber / UInt64.size = u.low.toNat := by
    rw [toNumber, Nat.add_mul_div_left _ _ (by decide), Nat.div_eq_of_lt hh, Nat.zero_add]
  have hhigh : UInt64.ofNat u.toNumber = u.high := by
    apply UInt64.toNat_inj.mp
    rw [toNumber, UInt64.toNat_ofNat', Nat.add_mul_mod_self_left]
    exact Nat.mod_eq_of_lt hh
  rw [ofNumber, hlow, hhigh, UInt64.ofNat_toNat]

theorem toNumber_ofNumber (n : Nat) (h : n < LittleEndian.capacity 16) :
    (ofNumber n).toNumber = n := by
  have hhigh : (UInt64.ofNat n).toNat = n % UInt64.size := UInt64.toNat_ofNat'
  have hlow : (UInt64.ofNat (n / UInt64.size)).toNat = n / UInt64.size % UInt64.size :=
    UInt64.toNat_ofNat'
  simp only [toNumber, ofNumber, hhigh, hlow, LittleEndian.capacity, UInt64.size] at *
  omega

end Uuid

instance : Word Uuid where
  width := 16
  toNat := Uuid.toNumber
  ofNat := Uuid.ofNumber
  toNat_lt := Uuid.toNumber_lt
  ofNat_toNat := Uuid.ofNumber_toNumber
  toNat_ofNat := Uuid.toNumber_ofNumber

end ThinClient
