import ThinClient.Value.Binary
import ThinClient.Value.Temporal
import ThinClient.Value.Uuid

/-!
# Values and records

A value is of one of the kinds of `TypeCode`. Arrays of plain kinds hold plain elements; arrays of
texts, identifiers, dates, times and instants hold elements that may be null. A record has a type
name and named fields, in order.

* `Record.set` keeps the names of a record distinct and in the order in which they first came.
* `WireValue.ieeeEq` is equality that compares floats as the standard for floats does.
-/

namespace ThinClient

/-- A type name and named fields in order, over any type of values. -/
structure Record (V : Type) where
  typeName : String
  fields : List (String × V)

/-- A value as it is carried on the wire. -/
inductive WireValue where
  | byte (value : Int8)
  | short (value : Int16)
  | int (value : Int32)
  | long (value : Int64)
  | float (value : Binary32)
  | double (value : Binary64)
  /-- A UTF-16 code unit. -/
  | char (unit : UInt16)
  | bool (value : Bool)
  | string (text : String)
  | uuid (value : Uuid)
  | date (value : Date)
  | byteArray (items : List Int8)
  | shortArray (items : List Int16)
  | intArray (items : List Int32)
  | longArray (items : List Int64)
  | floatArray (items : List Binary32)
  | doubleArray (items : List Binary64)
  | charArray (items : List UInt16)
  | boolArray (items : List Bool)
  | stringArray (items : List (Option String))
  | uuidArray (items : List (Option Uuid))
  | dateArray (items : List (Option Date))
  | timestamp (value : Timestamp)
  | timestampArray (items : List (Option Timestamp))
  | time (value : Time)
  | timeArray (items : List (Option Time))
  | null
  | complex (object : Record WireValue)

/-- A record whose fields are values. -/
abbrev ComplexObject := Record WireValue

namespace WireValue

/-- The kind of a value. -/
def typeCode : WireValue → TypeCode
  | byte _ => .byte
  | short _ => .short
  | int _ => .int
  | long _ => .long
  | float _ => .float
  | double _ => .double
  | char _ => .char
  | bool _ => .bool
  | string _ => .string
  | uuid _ => .uuid
  | date _ => .date
  | byteArray _ => .byteArray
  | shortArray _ => .shortArray
  | intArray _ => .intArray
  | longArray _ => .longArray
  | floatArray _ => .floatArray
  | doubleArray _ => .doubleArray
  | charArray _ => .charArray
  | boolArray _ => .boolArray
  | stringArray _ => .stringArray
  | uuidArray _ => .uuidArray
  | dateArray _ => .dateArray
  | timestamp _ => .timestamp
  | timestampArray _ => .timestampArray
  | time _ => .time
  | timeArray _ => .timeArray
  | null => .null
  | complex _ => .complex

/-- Whether a value is null. -/
def isNull : WireValue → Bool
  | null => true
  | _ => false

mutual

/-- Equality of values in which floats are compared by the standard for floats. -/
def ieeeEq : WireValue → WireValue → Bool
  | byte a, byte b => a == b
  | short a, short b => a == b
  | int a, int b => a == b
  | long a, long b => a == b
  | float a, float b => a.ieeeEq b
  | double a, double b => a.ieeeEq b
  | char a, char b => a == b
  | bool a, bool b => a == b
  | string a, string b => a == b
  | uuid a, uuid b => a == b
  | date a, date b => a == b
  | byteArray a, byteArray b => a == b
  | shortArray a, shortArray b => a == b
  | intArray a, intArray b => a == b
  | longArray a, longArray b => a == b
  | floatArray a, floatArray b => a.isEqv b Binary32.ieeeEq
  | doubleArray a, doubleArray b => a.isEqv b Binary64.ieeeEq
  | charArray a, charArray b => a == b
  | boolArray a, boolArray b => a == b
  | stringArray a, stringArray b => a == b
  | uuidArray a, uuidArray b => a == b
  | dateArray a, dateArray b => a == b
  | timestamp a, timestamp b => a == b
  | timestampArray a, timestampArray b => a == b
  | time a, time b => a == b
  | timeArray a, timeArray b => a == b
  | null, null => true
  | complex ⟨s, fs⟩, complex ⟨t, gs⟩ => s == t && fieldsIeeeEq fs gs
  | _, _ => false

/-- Equality of fields: the same names with equal values. -/
def fieldsIeeeEq : List (String × WireValue) → List (String × WireValue) → Bool
  | [], [] => true
  | (s, a) :: fs, (t, b) :: gs => s == t && ieeeEq a b && fieldsIeeeEq fs gs
  | _, _ => false

end

end WireValue

namespace Record

variable {V : Type}

/-- The record without fields. -/
def empty (typeName : String) : Record V :=
  ⟨typeName, []⟩

/-- The fields with the value of a name replaced where it stands, or added at the end. -/
def setField (name : String) (value : V) : List (String × V) → List (String × V)
  | [] => [(name, value)]
  | (n, v) :: rest => if n = name then (n, value) :: rest else (n, v) :: setField name value rest

/-- The record with the value of a field replaced where it stands, or added at the end. -/
def set (r : Record V) (name : String) (value : V) : Record V :=
  { r with fields := setField name value r.fields }

/-- The value of the first field with this name. -/
def get? (r : Record V) (name : String) : Option V :=
  (r.fields.find? fun f => f.1 = name).map (·.2)

/-- The names of the fields, in order. -/
def names (r : Record V) : List String :=
  r.fields.map (·.1)

/-- How many fields there are. -/
def size (r : Record V) : Nat :=
  r.fields.length

end Record

end ThinClient
