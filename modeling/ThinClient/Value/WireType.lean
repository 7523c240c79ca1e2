import ThinClient.Calendar
import ThinClient.Value.Decode

/-!
# Values as Lean types

A column of a result, or a field of a record, is read as a type of the reader's choice. Reading is
strict: each type takes values of one kind, an integer is not widened, and null is taken only by
`Option`, by `Unit`, which takes everything, and by `WireValue` itself. The types of the calendar
read the value they stand for and refuse what lies outside the calendar.

* `WireType` is the class of the types a value can be read as and written from.
* `ColumnType` is the datum that stands for such a type.
-/

namespace ThinClient

/-- Types that a value can be read as. -/
class WireType (α : Type) where
  /-- Reads a value as this type. -/
  read : WireValue → Except DecodeError α
  /-- The value that stands for an element of this type. -/
  write : α → WireValue

namespace WireType

/-- Why a value is not one of the expected kind. -/
def mismatch (expected : TypeCode) (found : WireValue) : DecodeError :=
  if found.isNull then .null else .unexpectedType expected found.typeCode

instance : WireType Int8 where
  read
    | .byte v => .ok v
    | other => .error (mismatch .byte other)
  write := .byte

instance : WireType Int16 where
  read
    | .short v => .ok v
    | other => .error (mismatch .short other)
  write := .short

instance : WireType Int32 where
  read
    | .int v => .ok v
    | other => .error (mismatch .int other)
  write := .int

instance : WireType Int64 where
  read
    | .long v => .ok v
    | other => .error (mismatch .long other)
  write := .long

instance : WireType Binary32 where
  read
    | .float v => .ok v
    | other => .error (mismatch .float other)
  write := .float

instance : WireType Binary64 where
  read
    | .double v => .ok v
    | other => .error (mismatch .double other)
  write := .double

instance : WireType UInt16 where
  read
    | .char v => .ok v
    | other => .error (mismatch .char other)
  write := .char

instance : WireType Bool where
  read
    | .bool v => .ok v
    | other => .error (mismatch .bool other)
  write := .bool

instance : WireType String where
  read
    | .string v => .ok v
    | other => .error (mismatch .string other)
  write := .string

instance : WireType Uuid where
  read
    | .uuid v => .ok v
    | other => .error (mismatch .uuid other)
  write := .uuid

instance : WireType Date where
  read
    | .date v => .ok v
    | other => .error (mismatch .date other)
  write := .date

instance : WireType Time where
  read
    | .time v => .ok v
    | other => .error (mismatch .time other)
  write := .time

instance : WireType Timestamp where
  read
    | .timestamp v => .ok v
    | other => .error (mismatch .timestamp other)
  write := .timestamp

instance : WireType (List Int8) where
  read
    | .byteArray v => .ok v
    | other => .error (mismatch .byteArray other)
  write := .byteArray

instance : WireType (List Int16) where
  read
    | .shortArray v => .ok v
    | other => .error (mismatch .shortArray other)
  write := .shortArray

instance : WireType (List Int32) where
  read
    | .intArray v => .ok v
    | other => .error (mismatch .intArray other)
  write := .intArray

instance : WireType (List Int64) where
  read
    | .longArray v => .ok v
    | other => .error (mismatch .longArray other)
  write := .longArray

instance : WireType (List Binary32) where
  read
    | .floatArray v => .ok v
    | other => .error (mismatch .floatArray other)
  write := .floatArray

instance : WireType (List Binary64) where
  read
    | .doubleArray v => .ok v
    | other => .error (mismatch .doubleArray other)
  write := .doubleArray

instance : WireType (List UInt16) where
  read
    | .charArray v => .ok v
    | other => .error (mismatch .charArray other)
  write := .charArray

instance : WireType (List Bool) where
  read
    | .boolArray v => .ok v
    | other => .error (mismatch .boolArray other)
  write := .boolArray

instance : WireType (List (Option String)) where
  read
    | .stringArray v => .ok v
    | other => .error (mismatch .stringArray other)
  write := .stringArray

instance : WireType (List (Option Uuid)) where
  read
    | .uuidArray v => .ok v
    | other => .error (mismatch .uuidArray other)
  write := .uuidArray

instance : WireType (List (Option Date)) where
  read
    | .dateArray v => .ok v
    | other => .error (mismatch .dateArray other)
  write := .dateArray

instance : WireType (List (Option Timestamp)) where
  read
    | .timestampArray v => .ok v
    | other => .error (mismatch .timestampArray other)
  write := .timestampArray

instance : WireType (List (Option Time)) where
  read
    | .timeArray v => .ok v
    | other => .error (mismatch .timeArray other)
  write := .timeArray

instance : WireType ComplexObject where
  read
    | .complex v => .ok v
    | other => .error (mismatch .complex other)
  write := .complex

instance : WireType WireValue where
  read := .ok
  write := id

instance : WireType Unit where
  read _ := .ok ()
  write _ := .null

instance {α : Type} [WireType α] : WireType (Option α) where
  read
    | .null => .ok none
    | other => (read other).map some
  write
    | none => .null
    | some a => write a

instance : WireType CivilDate where
  read v := do (← (read v : Except DecodeError Date)).toCivil
  write a := .date (.ofCivil a)

instance : WireType ClockTime where
  read v := do (← (read v : Except DecodeError Time)).toClock
  write a := .time (.ofClock a)

instance : WireType OffsetDateTime where
  read v := do (← (read v : Except DecodeError Timestamp)).toOffset
  write a := .timestamp (.ofInstant a)

instance : WireType UtcDateTime where
  read v := do (← (read v : Except DecodeError Timestamp)).toUtc
  write a := .timestamp (.ofInstant a)

instance : WireType PlainDateTime where
  read v := do (← (read v : Except DecodeError Timestamp)).toPlain
  write a := .timestamp (.ofFloating a)

end WireType

/-- The types that a value can be read as, for readers that choose one while they run. -/
inductive ColumnType where
  | byte
  | short
  | int
  | long
  | float
  | double
  | char
  | bool
  | string
  | uuid
  | date
  | time
  | timestamp
  | byteArray
  | shortArray
  | intArray
  | longArray
  | floatArray
  | doubleArray
  | charArray
  | boolArray
  | stringArray
  | uuidArray
  | dateArray
  | timestampArray
  | timeArray
  | complex
  /-- Any value, as it is. -/
  | any
  /-- Any value, which is not looked at. -/
  | ignored
  | civilDate
  | clockTime
  | offsetDateTime
  | utcDateTime
  | plainDateTime
  /-- Null, or what another type takes. -/
  | nullable (type : ColumnType)
  deriving DecidableEq

namespace ColumnType

/-- The elements of a column type. -/
def Carrier : ColumnType → Type
  | byte => Int8
  | short => Int16
  | int => Int32
  | long => Int64
  | float => Binary32
  | double => Binary64
  | char => UInt16
  | bool => Bool
  | string => String
  | uuid => Uuid
  | date => Date
  | time => Time
  | timestamp => Timestamp
  | byteArray => List Int8
  | shortArray => List Int16
  | intArray => List Int32
  | longArray => List Int64
  | floatArray => List Binary32
  | doubleArray => List Binary64
  | charArray => List UInt16
  | boolArray => List Bool
  | stringArray => List (Option String)
  | uuidArray => List (Option Uuid)
  | dateArray => List (Option Date)
  | timestampArray => List (Option Timestamp)
  | timeArray => List (Option Time)
  | complex => ComplexObject
  | any => WireValue
  | ignored => Unit
  | civilDate => CivilDate
  | clockTime => ClockTime
  | offsetDateTime => OffsetDateTime
  | utcDateTime => UtcDateTime
  | plainDateTime => PlainDateTime
  | nullable type => Option type.Carrier

/-- How a column type is read and written. -/
@[reducible] def wire : (c : ColumnType) → WireType c.Carrier
  | byte => inferInstanceAs (WireType Int8)
  | short => inferInstanceAs (WireType Int16)
  | int => inferInstanceAs (WireType Int32)
  | long => inferInstanceAs (WireType Int64)
  | float => inferInstanceAs (WireType Binary32)
  | double => inferInstanceAs (WireType Binary64)
  | char => inferInstanceAs (WireType UInt16)
  | bool => inferInstanceAs (WireType Bool)
  | string => inferInstanceAs (WireType String)
  | uuid => inferInstanceAs (WireType Uuid)
  | date => inferInstanceAs (WireType Date)
  | time => inferInstanceAs (WireType Time)
  | timestamp => inferInstanceAs (WireType Timestamp)
  | byteArray => inferInstanceAs (WireType (List Int8))
  | shortArray => inferInstanceAs (WireType (List Int16))
  | intArray => inferInstanceAs (WireType (List Int32))
  | longArray => inferInstanceAs (WireType (List Int64))
  | floatArray => inferInstanceAs (WireType (List Binary32))
  | doubleArray => inferInstanceAs (WireType (List Binary64))
  | charArray => inferInstanceAs (WireType (List UInt16))
  | boolArray => inferInstanceAs (WireType (List Bool))
  | stringArray => inferInstanceAs (WireType (List (Option String)))
  | uuidArray => inferInstanceAs (WireType (List (Option Uuid)))
  | dateArray => inferInstanceAs (WireType (List (Option Date)))
  | timestampArray => inferInstanceAs (WireType (List (Option Timestamp)))
  | timeArray => inferInstanceAs (WireType (List (Option Time)))
  | complex => inferInstanceAs (WireType ComplexObject)
  | any => inferInstanceAs (WireType WireValue)
  | ignored => inferInstanceAs (WireType Unit)
  | civilDate => inferInstanceAs (WireType CivilDate)
  | clockTime => inferInstanceAs (WireType ClockTime)
  | offsetDateTime => inferInstanceAs (WireType OffsetDateTime)
  | utcDateTime => inferInstanceAs (WireType UtcDateTime)
  | plainDateTime => inferInstanceAs (WireType PlainDateTime)
  | nullable type =>
    have := type.wire
    inferInstanceAs (WireType (Option type.Carrier))

/-- Reads a value as a column type. -/
def read (c : ColumnType) (v : WireValue) : Except DecodeError c.Carrier :=
  c.wire.read v

/-- The value that stands for an element of a column type. -/
def write (c : ColumnType) (a : c.Carrier) : WireValue :=
  c.wire.write a

/-- Reads a value as a column type and writes what was read. -/
def convert (c : ColumnType) (v : WireValue) : Except DecodeError WireValue :=
  (c.read v).map c.write

/-- Takes a tagged value and reads it as a column type. -/
def decode (c : ColumnType) : Reader c.Carrier := do
  match c.read (← WireValue.decode) with
  | .ok a => return a
  | .error e => throw e

end ColumnType

namespace Record

/-- Reads the value of a field as a column type. -/
def tryGet (r : ComplexObject) (name : String) (type : ColumnType) :
    Except DecodeError type.Carrier :=
  match r.get? name with
  | some v => type.read v
  | none => .error (.columnNotFound name)

end Record

end ThinClient
