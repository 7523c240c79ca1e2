import ThinClient.Bytes.LittleEndian

/-!
# Binary interchange floats

A float on the wire is its bit pattern in one of the two IEEE 754 binary interchange formats, and
it stays that pattern here: nothing rounds, and the payload of a NaN survives. Equality of
patterns is `=`; the comparison of the standard, under which zeros are equal whatever their sign
and a NaN equals nothing, is `ieeeEq`.
-/

namespace ThinClient

/-- A number in the 32-bit format: 1 sign bit, 8 exponent bits, 23 fraction bits. -/
structure Binary32 where
  bits : UInt32
  deriving DecidableEq, Repr

/-- A number in the 64-bit format: 1 sign bit, 11 exponent bits, 52 fraction bits. -/
structure Binary64 where
  bits : UInt64
  deriving DecidableEq, Repr

namespace Binary32

/-- Whether the pattern is one of the NaNs. -/
def isNaN (x : Binary32) : Bool :=
  0x7f800000 < x.bits &&& 0x7fffffff

/-- Whether the pattern is a zero of either sign. -/
def isZero (x : Binary32) : Bool :=
  x.bits &&& 0x7fffffff == 0

/-- The standard's comparison for equality. -/
def ieeeEq (x y : Binary32) : Bool :=
  !x.isNaN && !y.isNaN && (x.bits == y.bits || x.isZero && y.isZero)

end Binary32

namespace Binary64

/-- Whether the pattern is one of the NaNs. -/
def isNaN (x : Binary64) : Bool :=
  0x7ff0000000000000 < x.bits &&& 0x7fffffffffffffff

/-- Whether the pattern is a zero of either sign. -/
def isZero (x : Binary64) : Bool :=
  x.bits &&& 0x7fffffffffffffff == 0

/-- The standard's comparison for equality. -/
def ieeeEq (x y : Binary64) : Bool :=
  !x.isNaN && !y.isNaN && (x.bits == y.bits || x.isZero && y.isZero)

end Binary64

instance : Word Binary32 where
  width := 4
  toNat x := x.bits.toNat
  ofNat n := ⟨UInt32.ofNat n⟩
  toNat_lt x := x.bits.toNat_lt
  ofNat_toNat _ := by simp
  toNat_ofNat _ h := UInt32.toNat_ofNat_of_lt' h

instance : Word Binary64 where
  width := 8
  toNat x := x.bits.toNat
  ofNat n := ⟨UInt64.ofNat n⟩
  toNat_lt x := x.bits.toNat_lt
  ofNat_toNat _ := by simp
  toNat_ofNat _ h := UInt64.toNat_ofNat_of_lt' h

end ThinClient
