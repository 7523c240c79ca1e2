import ThinClient.Bytes.Reader
import ThinClient.Value.Encode

/-!
# Values from octets

The readers for the octets that `WireValue.encode` gives. A reader checks what the octets claim
about themselves (counts against what is left, ids and hashes of records against their names and
fields) before it believes them.

* `WireValue.decode` reads a tagged value, `WireValue.decodeBody` one whose kind is known.
* `WireValue.decodeExpected` reads a tagged value of one kind or a tagged null, and takes nothing
  when it finds another kind.
* `WireValue.readNullableText` does this for texts.

A record can hold records. Each has a header of its own, so the number of octets bounds how deep
they are nested; `decodeNested` is told this bound.
-/

namespace ThinClient.WireValue

open Reader

/-- Takes a type code. -/
def readTypeCode : Reader TypeCode := do
  let b ← word UInt8
  match TypeCode.ofByte? b with
  | some c => return c
  | none => throw (.unknownType b)

/-- Takes a truth value; every octet but 0 is true. -/
def readBool : Reader Bool :=
  return (← word UInt8) != 0

/-- Takes the body of a text. -/
def readText : Reader String := do
  let octets ← take (← length)
  match Utf8.decode octets with
  | .ok s => return s
  | .error flaw => throw (.utf8 flaw)

/-- Takes a date. -/
def readDate : Reader Date :=
  return ⟨← word Int64⟩

/-- Takes a time of day. -/
def readTime : Reader Time :=
  return ⟨← word Int64⟩

/-- Takes an instant. -/
def readTimestamp : Reader Timestamp := do
  let millis ← word Int64
  let nanos ← word Int32
  if nanos < 0 then throw (.malformed .negativeNanos)
  match Timestamp.new millis nanos.toUInt32 with
  | .ok t => return t
  | .error _ => throw (.malformed .nanosOutOfRange)

/-- Takes the body of an array of elements that have so many octets each. -/
def readArray {α : Type} (width : Nat) (element : Reader α) : Reader (List α) := do
  let count ← length
  let left ← available
  if left < count * width then throw (.truncated (count * width) left)
  replicate count element

/-- Takes the body of an array of words. -/
def readWords (α : Type) [Word α] : Reader (List α) :=
  readArray (Word.width α) (word α)

/-- Takes an element that has a type code, which is `code` or null. -/
def readNullable {α : Type} (code : TypeCode) (element : Reader α) : Reader (Option α) := do
  let found ← readTypeCode
  if found = .null then return none
  else if found = code then return some (← element)
  else throw (.unexpectedType code found)

/-- Takes the body of an array each of whose elements has a type code. -/
def readNullables {α : Type} (code : TypeCode) (element : Reader α) : Reader (List (Option α)) := do
  replicate (← length) (readNullable code element)

/-- Takes a tagged null or, after its type code, a value of the expected kind. Of anything else
nothing is taken. -/
def expecting {α : Type} (expected : TypeCode) (body : Reader α) : Reader (Option α) :=
  fun buffer =>
  match buffer with
  | [] => .error (.truncated 1 0) buffer
  | b :: rest =>
    match TypeCode.ofByte? b with
    | none => .error (.unknownType b) buffer
    | some found =>
      if found = .null then .ok none rest
      else if found = expected then (some <$> body) rest
      else .error (.unexpectedType expected found) buffer

/-- Takes a tagged text or a tagged null. -/
def readNullableText : Reader (Option String) :=
  expecting .string readText

/-- Takes a tagged text that names something and has an id in front of it; null is refused. -/
def readName (id : Int32) (missing mismatch : Defect) : Reader String := do
  match ← readNullableText with
  | none => throw (.malformed missing)
  | some name =>
    if nameId name = id then return name else throw (.malformed mismatch)

/-- Takes a field of a record. -/
def readField (value : Reader WireValue) : Reader (String × WireValue) := do
  let id ← word Int32
  let name ← readName id .fieldWithoutName .fieldIdMismatch
  return (name, ← value)

/-- Reads what follows the header of a record, to the last octet. -/
def readRecordContent (value : Reader WireValue) (typeId hash : Int32) : Reader ComplexObject := do
  let typeName ← readName typeId .recordWithoutTypeName .typeIdMismatch
  let count ← length
  if hashBytes (← get) ≠ hash then throw (.malformed .hashMismatch)
  let fields ← replicate count (readField value)
  if (← available) ≠ 0 then throw (.malformed .recordTrailingBytes)
  return ⟨typeName, fields⟩

/-- Takes the body of a record. -/
def readRecord (value : Reader WireValue) : Reader ComplexObject := do
  let version ← word UInt8
  if version ≠ recordVersion then throw (.malformed .recordVersion)
  let _flags ← word UInt16
  let typeId ← word Int32
  let hash ← word Int32
  let total ← length
  if total < recordHeaderLength then throw (.malformed .recordLength)
  within (total - recordHeaderLength) (readRecordContent value typeId hash)

/-- Takes the body of a value of some kind; `value` reads the tagged values inside a record. -/
def readBody (value : Reader WireValue) : TypeCode → Reader WireValue
  | .byte => byte <$> word Int8
  | .short => short <$> word Int16
  | .int => int <$> word Int32
  | .long => long <$> word Int64
  | .float => float <$> word Binary32
  | .double => double <$> word Binary64
  | .char => char <$> word UInt16
  | .bool => bool <$> readBool
  | .string => string <$> readText
  | .uuid => uuid <$> word Uuid
  | .date => date <$> readDate
  | .time => time <$> readTime
  | .timestamp => timestamp <$> readTimestamp
  | .byteArray => byteArray <$> readWords Int8
  | .shortArray => shortArray <$> readWords Int16
  | .intArray => intArray <$> readWords Int32
  | .longArray => longArray <$> readWords Int64
  | .floatArray => floatArray <$> readWords Binary32
  | .doubleArray => doubleArray <$> readWords Binary64
  | .charArray => charArray <$> readWords UInt16
  | .boolArray => boolArray <$> readArray 1 readBool
  | .stringArray => stringArray <$> readNullables .string readText
  | .uuidArray => uuidArray <$> readNullables .uuid (word Uuid)
  | .dateArray => dateArray <$> readNullables .date readDate
  | .timestampArray => timestampArray <$> readNullables .timestamp readTimestamp
  | .timeArray => timeArray <$> readNullables .time readTime
  | .null => return null
  | .complex => complex <$> readRecord value

/-- Takes a tagged value from at most `bound` octets. -/
def decodeNested : (bound : Nat) → Reader WireValue
  | 0 => throw (.truncated 1 0)
  | bound + 1 => do
    let code ← readTypeCode
    readBody (decodeNested bound) code

/-- Takes a tagged value. -/
def decode : Reader WireValue := fun buffer =>
  decodeNested buffer.length buffer

/-- Takes the body of a value whose kind is known. -/
def decodeBody (code : TypeCode) : Reader WireValue := fun buffer =>
  readBody (decodeNested buffer.length) code buffer

/-- Takes a tagged value of the expected kind or a tagged null. -/
def decodeExpected (expected : TypeCode) : Reader (Option WireValue) :=
  expecting expected (decodeBody expected)

/-- Takes at most so many tagged values. -/
def decodeMany : (atMost : Nat) → Bytes → List WireValue × Option DecodeError
  | 0, _ => ([], none)
  | atMost + 1, buffer =>
    if buffer.isEmpty then ([], none)
    else
      match decode buffer with
      | .ok v rest =>
        let (vs, e) := decodeMany atMost rest
        (v :: vs, e)
      | .error e _ => ([], some e)

/-- Takes tagged values to the end of the buffer, or up to one that cannot be read. Every value
takes at least one octet, so there are no more of them than octets. -/
def decodeAll (buffer : Bytes) : List WireValue × Option DecodeError :=
  decodeMany buffer.length buffer

end ThinClient.WireValue
