import ThinClient.Value.Basic
import ThinClient.Value.BinaryText

/-!
# Values in messages

How a value is shown to a person: the name of its kind with the value in brackets, texts quoted,
arrays in square brackets, and of elements that may be null which are there.
-/

namespace ThinClient

/-- Texts between square brackets, separated by commas. -/
def bracketed (items : List String) : String :=
  "[" ++ ", ".intercalate items ++ "]"

/-- An element that may be null. -/
def describeOption {α : Type} (describe : α → String) : Option α → String
  | some a => "Some(" ++ describe a ++ ")"
  | none => "None"

/-- A date in messages. -/
def Date.describe (d : Date) : String :=
  "Date(" ++ toString d.millis.toInt ++ ")"

/-- A time of day in messages. -/
def Time.describe (t : Time) : String :=
  "Time(" ++ toString t.millis.toInt ++ ")"

/-- An instant in messages. -/
def Timestamp.describe (t : Timestamp) : String :=
  "Timestamp \x7b millis: " ++ toString t.millis.toInt ++ ", nanos: " ++
    toString t.nanos.toNat ++ " \x7d"

/-- A truth value in messages. -/
def describeBool (b : Bool) : String :=
  if b then "true" else "false"

/-- A plain array in messages. -/
def describeArray {α : Type} (describe : α → String) (items : List α) : String :=
  bracketed (items.map describe)

/-- An array whose elements may be null in messages. -/
def describeNullables {α : Type} (describe : α → String) (items : List (Option α)) : String :=
  bracketed (items.map (describeOption describe))

namespace WireValue

mutual

/-- A value in messages. -/
def describe : WireValue → String
  | byte v => "Byte(" ++ toString v.toInt ++ ")"
  | short v => "Short(" ++ toString v.toInt ++ ")"
  | int v => "Int(" ++ toString v.toInt ++ ")"
  | long v => "Long(" ++ toString v.toInt ++ ")"
  | float v => "Float(" ++ v.text ++ ")"
  | double v => "Double(" ++ v.text ++ ")"
  | char v => "Char(" ++ toString v.toNat ++ ")"
  | bool v => "Bool(" ++ describeBool v ++ ")"
  | string v => "String(" ++ Quoted.text v ++ ")"
  | uuid v => "Uuid(" ++ v.text ++ ")"
  | date v => "Date(" ++ v.describe ++ ")"
  | time v => "Time(" ++ v.describe ++ ")"
  | timestamp v => "Timestamp(" ++ v.describe ++ ")"
  | byteArray vs => "ByteArray(" ++ describeArray (fun v => toString v.toInt) vs ++ ")"
  | shortArray vs => "ShortArray(" ++ describeArray (fun v => toString v.toInt) vs ++ ")"
  | intArray vs => "IntArray(" ++ describeArray (fun v => toString v.toInt) vs ++ ")"
  | longArray vs => "LongArray(" ++ describeArray (fun v => toString v.toInt) vs ++ ")"
  | floatArray vs => "FloatArray(" ++ describeArray Binary32.text vs ++ ")"
  | doubleArray vs => "DoubleArray(" ++ describeArray Binary64.text vs ++ ")"
  | charArray vs => "CharArray(" ++ describeArray (fun v => toString v.toNat) vs ++ ")"
  | boolArray vs => "BoolArray(" ++ describeArray describeBool vs ++ ")"
  | stringArray vs => "StringArray(" ++ describeNullables Quoted.text vs ++ ")"
  | uuidArray vs => "UuidArray(" ++ describeNullables Uuid.text vs ++ ")"
  | dateArray vs => "DateArray(" ++ describeNullables Date.describe vs ++ ")"
  | timestampArray vs => "TimestampArray(" ++ describeNullables Timestamp.describe vs ++ ")"
  | timeArray vs => "TimeArray(" ++ describeNullables Time.describe vs ++ ")"
  | null => "Null"
  | complex ⟨typeName, fields⟩ =>
    "Complex(ComplexObject \x7b type_name: " ++ Quoted.text typeName ++ ", fields: " ++
      bracketed (describeFields fields) ++ " \x7d)"

/-- The fields of a record in messages. -/
def describeFields : List (String × WireValue) → List String
  | [] => []
  | (name, value) :: rest =>
    ("(" ++ Quoted.text name ++ ", " ++ describe value ++ ")") :: describeFields rest

end

end WireValue

end ThinClient
