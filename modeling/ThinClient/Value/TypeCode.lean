/-!
# Type codes

Every tagged value starts with one octet that says which kind of value follows. The registry of
kinds is closed: `TypeCode.ofByte?` accepts exactly the octets that `TypeCode.toByte` gives
(`ofByte?_toByte`, `toByte_of_ofByte?`).
-/

namespace ThinClient

/-- The kinds of values that can be carried on the wire. -/
inductive TypeCode where
  | byte
  | short
  | int
  | long
  | float
  | double
  | char
  | bool
  | string
  | uuid
  | date
  | byteArray
  | shortArray
  | intArray
  | longArray
  | floatArray
  | doubleArray
  | charArray
  | boolArray
  | stringArray
  | uuidArray
  | dateArray
  | timestamp
  | timestampArray
  | time
  | timeArray
  | null
  | complex
  deriving DecidableEq, Repr

namespace TypeCode

/-- The octet that stands for a kind. -/
def toByte : TypeCode → UInt8
  | byte => 1
  | short => 2
  | int => 3
  | long => 4
  | float => 5
  | double => 6
  | char => 7
  | bool => 8
  | string => 9
  | uuid => 10
  | date => 11
  | byteArray => 12
  | shortArray => 13
  | intArray => 14
  | longArray => 15
  | floatArray => 16
  | doubleArray => 17
  | charArray => 18
  | boolArray => 19
  | stringArray => 20
  | uuidArray => 21
  | dateArray => 22
  | timestamp => 33
  | timestampArray => 34
  | time => 36
  | timeArray => 37
  | null => 101
  | complex => 103

/-- Every kind, in the order of their octets. -/
def all : List TypeCode :=
  [byte, short, int, long, float, double, char, bool, string, uuid, date, byteArray, shortArray,
    intArray, longArray, floatArray, doubleArray, charArray, boolArray, stringArray, uuidArray,
    dateArray, timestamp, timestampArray, time, timeArray, null, complex]

theorem mem_all (c : TypeCode) : c ∈ all := by
  cases c <;> decide

/-- The kind an octet stands for, if any. -/
def ofByte? (b : UInt8) : Option TypeCode :=
  all.find? fun c => c.toByte = b

@[simp] theorem ofByte?_toByte (c : TypeCode) : ofByte? c.toByte = some c := by
  cases c <;> decide

theorem toByte_of_ofByte? {b : UInt8} {c : TypeCode} (h : ofByte? b = some c) : c.toByte = b := by
  simpa using List.find?_some h

/-- The name of a kind, as messages show it. -/
def name : TypeCode → String
  | byte => "Byte"
  | short => "Short"
  | int => "Int"
  | long => "Long"
  | float => "Float"
  | double => "Double"
  | char => "Char"
  | bool => "Bool"
  | string => "String"
  | uuid => "Uuid"
  | date => "Date"
  | byteArray => "ByteArray"
  | shortArray => "ShortArray"
  | intArray => "IntArray"
  | longArray => "LongArray"
  | floatArray => "FloatArray"
  | doubleArray => "DoubleArray"
  | charArray => "CharArray"
  | boolArray => "BoolArray"
  | stringArray => "StringArray"
  | uuidArray => "UuidArray"
  | dateArray => "DateArray"
  | timestamp => "Timestamp"
  | timestampArray => "TimestampArray"
  | time => "Time"
  | timeArray => "TimeArray"
  | null => "Null"
  | complex => "Complex"

/-- The name of a kind with its octet in brackets. -/
def display (c : TypeCode) : String :=
  c.name ++ "(" ++ toString c.toByte.toNat ++ ")"

end TypeCode

end ThinClient
