/-!
# Decimal integers

Integers in texts are ASCII digits, at least one, with leading zeros allowed and any number of
them. A plus sign may stand in front of every integer and a minus sign in front of one that may be
negative. A reader for a type refuses what the type cannot hold.
-/

namespace ThinClient.Decimal

/-- The value of ASCII digits that continue a number. -/
def readDigits (soFar : Nat) : List Char → Option Nat
  | [] => some soFar
  | c :: rest =>
    if '0' ≤ c ∧ c ≤ '9' then readDigits (10 * soFar + (c.toNat - '0'.toNat)) rest else none

/-- The value of at least one ASCII digit. -/
def readNat (cs : List Char) : Option Nat :=
  if cs.isEmpty then none else readDigits 0 cs

/-- The value of digits after an optional plus sign. -/
def readUnsigned : List Char → Option Nat
  | '+' :: rest => readNat rest
  | cs => readNat cs

/-- The value of digits after an optional sign. -/
def readSigned : List Char → Option Int
  | '+' :: rest => (readNat rest).map Int.ofNat
  | '-' :: rest => (readNat rest).map fun n => -Int.ofNat n
  | cs => (readNat cs).map Int.ofNat

/-- An integer between two bounds, which count as well. -/
def readWithin (least greatest : Int) (cs : List Char) : Option Int :=
  (readSigned cs).filter fun n => least ≤ n ∧ n ≤ greatest

/-- A number below a bound. -/
def readBelow (bound : Nat) (cs : List Char) : Option Nat :=
  (readUnsigned cs).filter fun n => n < bound

/-- A 16-bit signed integer. -/
def readInt16 (cs : List Char) : Option Int16 :=
  (readWithin Int16.minValue.toInt Int16.maxValue.toInt cs).map Int16.ofInt

/-- A 32-bit signed integer. -/
def readInt32 (cs : List Char) : Option Int32 :=
  (readWithin Int32.minValue.toInt Int32.maxValue.toInt cs).map Int32.ofInt

/-- A 16-bit unsigned integer. -/
def readUInt16 (cs : List Char) : Option UInt16 :=
  (readBelow UInt16.size cs).map UInt16.ofNat

/-- A number of 64 bits. -/
def readNat64 (cs : List Char) : Option Nat :=
  readBelow UInt64.size cs

end ThinClient.Decimal
