import ThinClient.Text.Quoted
import ThinClient.Text.Utf8
import ThinClient.Value.TypeCode

/-!
# Errors of values

What can go wrong between octets and values, by cause, and the words for it.

* `DecodeError`: octets that are no value, and values that are not of the kind asked for.
* `EncodeError`: values that have no octets.
-/

namespace ThinClient

/-- Flaws of a value whose octets are all there. -/
inductive Defect where
  | negativeLength
  | negativeNanos
  | nanosOutOfRange
  | recordVersion
  | recordLength
  | recordWithoutTypeName
  | typeIdMismatch
  | hashMismatch
  | fieldWithoutName
  | fieldIdMismatch
  | recordTrailingBytes
  | dateOutOfRange
  | timeOutOfRange
  | timestampOutOfRange
  /-- A flaw that a caller of the library describes in words of its own. -/
  | other (reason : String)
  deriving DecidableEq, Repr

/-- The flaw in words. -/
def Defect.message : Defect → String
  | negativeLength => "negative length"
  | negativeNanos => "negative timestamp nanos"
  | nanosOutOfRange => "timestamp nanos out of range"
  | recordVersion => "unsupported complex object version"
  | recordLength => "complex object length shorter than header"
  | recordWithoutTypeName => "complex object without type name"
  | typeIdMismatch => "complex object type id mismatch"
  | hashMismatch => "complex object hash mismatch"
  | fieldWithoutName => "complex object field without name"
  | fieldIdMismatch => "complex object field id mismatch"
  | recordTrailingBytes => "trailing bytes in complex object"
  | dateOutOfRange => "date out of range"
  | timeOutOfRange => "time of day out of range"
  | timestampOutOfRange => "timestamp out of range"
  | other reason => reason

/-- Why octets or values cannot be read as what they are read as. -/
inductive DecodeError where
  /-- A value of another kind is there. -/
  | unexpectedType (expected found : TypeCode)
  /-- The octet stands for no kind of value. -/
  | unknownType (code : UInt8)
  /-- The octets end before the value does. -/
  | truncated (requested available : Nat)
  /-- A text is not UTF-8. -/
  | utf8 (flaw : Utf8Error)
  /-- The octets are there and contradict each other. -/
  | malformed (defect : Defect)
  /-- Null is there, and a value is needed. -/
  | null
  /-- No column of a row has this name. -/
  | columnNotFound (name : String)
  /-- No column of a row has this position. -/
  | indexOutOfBounds (index : Nat)
  deriving DecidableEq, Repr

/-- The cause in words. -/
def DecodeError.message (e : DecodeError) : String :=
  "failed to decode value, " ++
  match e with
  | unexpectedType expected found =>
    "expected type " ++ expected.display ++ " found " ++ found.display
  | unknownType code => "unknown type code: " ++ toString code.toNat
  | truncated requested available =>
    "payload truncated, requested " ++ toString requested ++ " bytes but " ++
      toString available ++ " available"
  | utf8 flaw => flaw.message
  | malformed defect => "malformed value: " ++ defect.message
  | null => "unexpected NULL value"
  | columnNotFound name => "column not found: " ++ Quoted.text name
  | indexOutOfBounds index => "index out of bounds: " ++ toString index

/-- Why a value cannot be written. -/
inductive EncodeError where
  /-- A length is above what a length on the wire can say. -/
  | tooLarge (what : String) (length : Nat)
  /-- The nanoseconds of a timestamp make up a millisecond or more. -/
  | invalidNanos (nanos : UInt32)
  deriving DecidableEq, Repr

/-- The cause in words. -/
def EncodeError.message (e : EncodeError) : String :=
  "failed to encode value, " ++
  match e with
  | tooLarge what length => what ++ " length " ++ toString length ++ " exceeds wire limit"
  | invalidNanos nanos =>
    "nanosecond remainder " ++ toString nanos.toNat ++ " is not within a millisecond"

end ThinClient
