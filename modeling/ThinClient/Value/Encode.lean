import ThinClient.NameId
import ThinClient.Value.Basic

/-!
# Values as octets

The body of a value is what follows its type code.

* Words are little-endian, a truth value is the octet 0 or 1, a text is its UTF-8 form after the
  number of its octets, and an instant is its milliseconds and then its nanoseconds.
* A plain array is the number of its elements and their bodies. An array whose elements may be null
  gives each of them a type code of its own.
* A record is a header of fixed length, its tagged type name, the number of its fields and, for
  each field, id, tagged name and tagged value. The header holds version, flags, type id, the hash
  of the fields and the length of the whole record.

A number of octets or elements goes on the wire as a signed word, so the only values without octets
are those with a count above its range.
-/

namespace ThinClient

/-- The greatest number that a signed 32-bit word holds. -/
def greatestCount : Nat := 2147483647

/-- A count as a signed 32-bit word; `what` names the thing that is counted. -/
def encodeLength (what : String) (n : Nat) : Except EncodeError Bytes :=
  if n ≤ greatestCount then .ok (LittleEndian.encode 4 n) else .error (.tooLarge what n)

/-- The body of a text. -/
def encodeText (s : String) : Except EncodeError Bytes := do
  let octets := Utf8.encode s
  let length ← encodeLength "string" octets.length
  return length ++ octets

/-- A tagged text, or a tagged null. -/
def encodeNullableText : Option String → Except EncodeError Bytes
  | some s => return TypeCode.string.toByte :: (← encodeText s)
  | none => return [TypeCode.null.toByte]

/-- A truth value as an octet. -/
def encodeBool (b : Bool) : Bytes :=
  [if b then 1 else 0]

/-- The body of an instant. -/
def encodeTimestamp (t : Timestamp) : Bytes :=
  Word.encode t.millis ++ Word.encode t.nanos

/-- The body of an array whose elements have no type codes. -/
def encodeArray {α : Type} (element : α → Bytes) (items : List α) : Except EncodeError Bytes := do
  let length ← encodeLength "array" items.length
  return length ++ items.flatMap element

/-- The elements of an array each of which has a type code. -/
def encodeNullables {α : Type} (code : TypeCode) (element : α → Except EncodeError Bytes) :
    List (Option α) → Except EncodeError Bytes
  | [] => return []
  | none :: rest => return TypeCode.null.toByte :: (← encodeNullables code element rest)
  | some a :: rest => do
    let body ← element a
    return code.toByte :: body ++ (← encodeNullables code element rest)

/-- The body of an array each of whose elements has a type code. -/
def encodeNullableArray {α : Type} (code : TypeCode) (element : α → Except EncodeError Bytes)
    (items : List (Option α)) : Except EncodeError Bytes := do
  let length ← encodeLength "array" items.length
  return length ++ (← encodeNullables code element items)

/-- The version of the layout of records. -/
def recordVersion : UInt8 := 1

/-- The flags every record is written with: it has a type of the user's and a schema. -/
def recordFlags : UInt16 := 3

/-- The length of version, flags, type id, hash and length. -/
def recordHeaderLength : Nat := 15

/-- The body of a record whose parts are octets already: its type, the number of its fields in
front of them, and the fields. -/
def encodeRecord (typeName : String) (tag count fields : Bytes) : Except EncodeError Bytes := do
  let length ← encodeLength "complex object"
    (recordHeaderLength + tag.length + count.length + fields.length)
  return recordVersion :: Word.encode recordFlags ++ Word.encode (nameId typeName) ++
    Word.encode (hashBytes fields) ++ length ++ tag ++ count ++ fields

namespace WireValue

mutual

/-- The octets of a value after its type code. -/
def encodeBody : WireValue → Except EncodeError Bytes
  | byte v => return Word.encode v
  | short v => return Word.encode v
  | int v => return Word.encode v
  | long v => return Word.encode v
  | float v => return Word.encode v
  | double v => return Word.encode v
  | char v => return Word.encode v
  | bool v => return encodeBool v
  | string v => encodeText v
  | uuid v => return Word.encode v
  | date v => return Word.encode v.millis
  | time v => return Word.encode v.millis
  | timestamp v => return encodeTimestamp v
  | byteArray vs => encodeArray Word.encode vs
  | shortArray vs => encodeArray Word.encode vs
  | intArray vs => encodeArray Word.encode vs
  | longArray vs => encodeArray Word.encode vs
  | floatArray vs => encodeArray Word.encode vs
  | doubleArray vs => encodeArray Word.encode vs
  | charArray vs => encodeArray Word.encode vs
  | boolArray vs => encodeArray encodeBool vs
  | stringArray vs => encodeNullableArray .string encodeText vs
  | uuidArray vs => encodeNullableArray .uuid (fun v => return Word.encode v) vs
  | dateArray vs => encodeNullableArray .date (fun v => return Word.encode v.millis) vs
  | timestampArray vs => encodeNullableArray .timestamp (fun v => return encodeTimestamp v) vs
  | timeArray vs => encodeNullableArray .time (fun v => return Word.encode v.millis) vs
  | null => return []
  | complex ⟨typeName, fields⟩ => do
    let tag ← encodeNullableText (some typeName)
    let count ← encodeLength "complex object fields" fields.length
    let octets ← encodeFields fields
    encodeRecord typeName tag count octets

/-- The octets of the fields of a record. -/
def encodeFields : List (String × WireValue) → Except EncodeError Bytes
  | [] => return []
  | (name, value) :: rest => do
    let tag ← encodeNullableText (some name)
    let body ← encodeBody value
    return Word.encode (nameId name) ++ tag ++ value.typeCode.toByte :: body ++
      (← encodeFields rest)

end

/-- The octets of a value with its type code. -/
def encode (v : WireValue) : Except EncodeError Bytes :=
  return v.typeCode.toByte :: (← v.encodeBody)

end WireValue

end ThinClient
