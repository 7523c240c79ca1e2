import ThinClient.Proofs.Reading
import ThinClient.Value.Decode

/-!
# Reading nested values

`WireValue.decode` is told how many octets there are, and so how deep records can be nested. This
module shows that the bound is invisible:

* `decode_eq`: reading a tagged value is reading a type code and then a body, in which tagged
  values are read in the same way; `decodeBody_eq` says this of a body.
* `decode_takes`: octets that are a value are that value, whatever follows them.

All bodies but that of a record are made of reads (`readBody_direct`), and a record is a header that
is made of reads, before content in octets of its own (`readRecord_eq`). So none of the readers takes
anything but the front of its buffer (`readBody_forward`), and the values inside a record are read
from less octets than the record has, where two bounds make no difference (`decodeNested_agree`).
-/

namespace ThinClient.WireValue

open Reader

variable {α : Type} {element : Reader α} {value value' : Reader WireValue} {n : Nat}

/-! ## Most readers are made of reads -/

theorem readTypeCode_direct : Direct readTypeCode := by
  refine (Direct.word UInt8).bind fun b => ?_
  split
  · exact .pure _
  · exact .fail rfl

theorem readBool_direct : Direct readBool :=
  (Direct.word UInt8).bind fun _ => .pure _

theorem readText_direct : Direct readText := by
  refine Direct.length.bind fun n => (Direct.take n).bind fun octets => ?_
  split
  · exact .pure _
  · exact .fail rfl

theorem readDate_direct : Direct readDate :=
  (Direct.word Int64).bind fun _ => .pure _

theorem readTime_direct : Direct readTime :=
  (Direct.word Int64).bind fun _ => .pure _

theorem readTimestamp_direct : Direct readTimestamp := by
  refine (Direct.word Int64).bind fun millis => (Direct.word Int32).bind fun nanos => .check rfl ?_
  split
  · exact .pure _
  · exact .fail rfl

/-- The octets of all elements of a plain array are asked for before the first one is read. -/
theorem readArray_eq (width : Nat) (element : Reader α) :
    readArray width element =
      (do
        let count ← length
        require (count * width)
        replicate count element) := by
  refine congrArg (length >>= ·) (funext fun count => funext fun buffer => ?_)
  change (if buffer.length < count * width then _ else replicate count element : Reader _) buffer = _
  by_cases hfew : buffer.length < count * width
  · have hrequire : require (count * width) buffer =
        .error (.truncated (count * width) buffer.length) buffer := by rw [require, if_pos hfew]
    rw [if_pos hfew, bind_apply_error hrequire]
    rfl
  · have hrequire : require (count * width) buffer = .ok () buffer := by
      rw [require, if_neg hfew]
    rw [if_neg hfew, bind_apply_ok hrequire]

theorem readArray_direct (width : Nat) (h : Direct element) : Direct (readArray width element) := by
  rw [readArray_eq]
  exact Direct.length.bind fun count => (Direct.require _).bind fun _ => h.replicate count

theorem readNullable_direct (code : TypeCode) (h : Direct element) :
    Direct (readNullable code element) := by
  refine readTypeCode_direct.bind fun found => ?_
  split
  · exact .pure _
  split
  · exact h.bind fun _ => .pure _
  · exact .fail rfl

theorem readNullables_direct (code : TypeCode) (h : Direct element) :
    Direct (readNullables code element) :=
  Direct.length.bind fun count => (readNullable_direct code h).replicate count

/-- Everything but a record is read so. -/
theorem readBody_direct (value : Reader WireValue) {code : TypeCode} (hcode : code ≠ .complex) :
    Direct (readBody value code) := by
  cases code with
  | byte | short | int | long | float | double | char | uuid => exact (Direct.word _).map _
  | bool => exact readBool_direct.map _
  | string => exact readText_direct.map _
  | date => exact readDate_direct.map _
  | time => exact readTime_direct.map _
  | timestamp => exact readTimestamp_direct.map _
  | byteArray | shortArray | intArray | longArray | floatArray | doubleArray | charArray =>
    exact (readArray_direct _ (.word _)).map _
  | boolArray => exact (readArray_direct _ readBool_direct).map _
  | stringArray => exact (readNullables_direct _ readText_direct).map _
  | uuidArray => exact (readNullables_direct _ (.word _)).map _
  | dateArray => exact (readNullables_direct _ readDate_direct).map _
  | timestampArray => exact (readNullables_direct _ readTimestamp_direct).map _
  | timeArray => exact (readNullables_direct _ readTime_direct).map _
  | null => exact .pure _
  | complex => exact absurd rfl hcode

/-- What the header of a record says about the content behind it. -/
structure RecordHeader where
  typeId : Int32
  hash : Int32
  size : Nat

/-- Takes the header of a record. -/
def readRecordHeader : Reader RecordHeader := do
  let version ← word UInt8
  if version ≠ recordVersion then throw (.malformed .recordVersion)
  let _flags ← word UInt16
  let typeId ← word Int32
  let hash ← word Int32
  let total ← length
  if total < recordHeaderLength then throw (.malformed .recordLength)
  return ⟨typeId, hash, total - recordHeaderLength⟩

theorem readRecordHeader_direct : Direct readRecordHeader :=
  (Direct.word UInt8).bind fun _ => .check rfl <| (Direct.word UInt16).bind fun _ =>
    (Direct.word Int32).bind fun _ => (Direct.word Int32).bind fun _ =>
      Direct.length.bind fun _ => .check rfl (.pure _)

/-- A record is its header and then the content, in octets of its own. -/
theorem readRecord_eq (value : Reader WireValue) :
    readRecord value =
      (do
        let header ← readRecordHeader
        within header.size (readRecordContent value header.typeId header.hash)) := by
  simp only [readRecord, readRecordHeader, bind_assoc]
  refine congrArg (word UInt8 >>= ·) (funext fun version => ?_)
  split
  · rfl
  · simp only [bind_assoc]
    refine congrArg (word UInt16 >>= ·) (funext fun flags => ?_)
    refine congrArg (word Int32 >>= ·) (funext fun typeId => ?_)
    refine congrArg (word Int32 >>= ·) (funext fun hash => ?_)
    refine congrArg (length >>= ·) (funext fun total => ?_)
    split <;> rfl

/-! ## Octets are taken from the front -/

theorem expecting_forward (code : TypeCode) (h : Forward element) :
    Forward (expecting code element) := by
  intro buffer
  cases buffer with
  | nil => exact List.suffix_rfl
  | cons b rest =>
    rw [expecting]
    split
    · exact List.suffix_rfl
    split
    · exact List.suffix_cons b rest
    split
    · exact ((h.map some) rest).trans (List.suffix_cons b rest)
    · exact List.suffix_rfl

theorem readName_forward (id : Int32) (missing mismatch : Defect) :
    Forward (readName id missing mismatch) := by
  have htext : Forward readNullableText := expecting_forward _ (.of_direct readText_direct)
  refine htext.bind fun name => ?_
  split
  · exact .throw _
  split
  · exact .pure _
  · exact .throw _

theorem readField_forward (h : Forward value) : Forward (readField value) :=
  (Forward.of_direct (.word Int32)).bind fun _ => (readName_forward _ _ _).bind fun _ =>
    h.bind fun _ => .pure _

theorem readRecord_forward (value : Reader WireValue) : Forward (readRecord value) := by
  rw [readRecord_eq]
  exact (Forward.of_direct readRecordHeader_direct).bind fun header => .within _ _

theorem readBody_forward (value : Reader WireValue) (code : TypeCode) :
    Forward (readBody value code) := by
  by_cases hcode : code = .complex
  · subst hcode
    exact (readRecord_forward value).map _
  · exact .of_direct (readBody_direct value hcode)

theorem decodeNested_forward (bound : Nat) : Forward (decodeNested bound) := by
  cases bound with
  | zero => exact .throw _
  | succ bound => exact (Forward.of_direct readTypeCode_direct).bind fun code => readBody_forward _ code

/-! ## The bound makes no difference -/

theorem readField_agree (h : AgreeUpTo n value value') (hv : Forward value') :
    AgreeUpTo n (readField value) (readField value') := by
  refine (AgreeUpTo.refl n _).bind (.of_direct (.word _)) fun id => ?_
  refine (AgreeUpTo.refl n _).bind (readName_forward _ _ _) fun name => ?_
  exact h.bind hv fun _ => .refl n _

theorem readRecordContent_agree (typeId hash : Int32) (h : AgreeUpTo n value value')
    (hv : Forward value') :
    AgreeUpTo n (readRecordContent value typeId hash) (readRecordContent value' typeId hash) := by
  refine (AgreeUpTo.refl n _).bind (readName_forward _ _ _) fun name => ?_
  refine (AgreeUpTo.refl n _).bind (.of_direct .length) fun count => ?_
  refine (AgreeUpTo.refl n _).bind .get fun rest => .check ?_
  have hfields := (readField_agree h hv).replicate count (readField_forward hv)
  exact hfields.bind ((readField_forward hv).replicate count) fun fields => .refl n _

theorem readRecord_agree (h : AgreeUpTo n value value') (hv : Forward value') :
    AgreeUpTo n (readRecord value) (readRecord value') := by
  rw [readRecord_eq, readRecord_eq]
  refine (AgreeUpTo.refl n _).bind (.of_direct readRecordHeader_direct) fun header => ?_
  exact .within _ (readRecordContent_agree header.typeId header.hash h hv)

theorem readBody_agree (code : TypeCode) (h : AgreeUpTo n value value') (hv : Forward value') :
    AgreeUpTo n (readBody value code) (readBody value' code) := by
  cases code with
  | complex => exact (readRecord_agree h hv).map _ (readRecord_forward value')
  | _ => exact .refl n _

theorem readTypeCode_nil : readTypeCode [] = .error (.truncated 1 0) [] := rfl

theorem readTypeCode_cons (b : UInt8) (rest : Bytes) :
    readTypeCode (b :: rest) =
      match TypeCode.ofByte? b with
      | some c => .ok c rest
      | none => .error (.unknownType b) rest := by
  have hoctet : word UInt8 (b :: rest) = .ok b rest := takes_octet b rest
  rw [readTypeCode, bind_apply_ok hoctet]
  cases TypeCode.ofByte? b <;> rfl

theorem eq_cons_of_readTypeCode {buffer rest : Bytes} {code : TypeCode}
    (h : readTypeCode buffer = .ok code rest) : buffer = code.toByte :: rest := by
  cases buffer with
  | nil => cases h
  | cons b after =>
    rw [readTypeCode_cons] at h
    split at h
    next c hc =>
      cases h
      rw [TypeCode.toByte_of_ofByte? hc]
    next => cases h

theorem length_lt_of_readTypeCode {buffer rest : Bytes} {code : TypeCode}
    (h : readTypeCode buffer = .ok code rest) : rest.length < buffer.length := by
  rw [eq_cons_of_readTypeCode h]
  exact Nat.lt_succ_self _

theorem decodeNested_nil (bound : Nat) : decodeNested bound [] = .error (.truncated 1 0) [] := by
  cases bound with
  | zero => rfl
  | succ bound => exact bind_apply_error readTypeCode_nil

/-- Bounds above the number of octets make no difference. -/
theorem decodeNested_agree {k m : Nat} (hk : n ≤ k) (hm : n ≤ m) :
    AgreeUpTo n (decodeNested k) (decodeNested m) := by
  induction n generalizing k m with
  | zero =>
    intro buffer hb
    obtain rfl : buffer = [] := List.length_eq_zero_iff.mp (by omega)
    rw [decodeNested_nil, decodeNested_nil]
  | succ n ih =>
    obtain ⟨k, rfl⟩ : ∃ j, k = j + 1 := ⟨k - 1, by omega⟩
    obtain ⟨m, rfl⟩ : ∃ j, m = j + 1 := ⟨m - 1, by omega⟩
    intro buffer hb
    -- the type code takes an octet, so the body has at most `n`
    cases h : readTypeCode buffer with
    | error e rest => rw [decodeNested, decodeNested, bind_apply_error h, bind_apply_error h]
    | ok code rest =>
      have hrest := length_lt_of_readTypeCode h
      have hinner : AgreeUpTo n (decodeNested k) (decodeNested m) := ih (by omega) (by omega)
      rw [decodeNested, decodeNested, bind_apply_ok h, bind_apply_ok h]
      exact readBody_agree code hinner (decodeNested_forward m) rest (by omega)

theorem decodeNested_agree_decode (bound : Nat) : AgreeUpTo bound (decodeNested bound) decode :=
  fun buffer hb => decodeNested_agree hb (Nat.le_refl _) buffer (Nat.le_refl _)

theorem decode_forward : Forward decode :=
  fun buffer => decodeNested_forward buffer.length buffer

/-- The body of a value is read with `decode` for the values inside it. -/
theorem decodeBody_eq (code : TypeCode) : decodeBody code = readBody decode code := by
  funext buffer
  exact readBody_agree code (decodeNested_agree_decode _) decode_forward buffer (Nat.le_refl _)

/-- A tagged value is a type code and a body. -/
theorem decode_eq : decode = (readTypeCode >>= decodeBody) := by
  funext buffer
  cases h : readTypeCode buffer with
  | error e rest =>
    rw [bind_apply_error h, decode]
    cases hb : buffer.length with
    | zero =>
      obtain rfl := List.length_eq_zero_iff.mp hb
      cases readTypeCode_nil.symm.trans h
      exact decodeNested_nil _
    | succ bound => rw [decodeNested, bind_apply_error h]
  | ok code rest =>
    have hrest := length_lt_of_readTypeCode h
    obtain ⟨bound, hb⟩ : ∃ bound, buffer.length = bound + 1 := ⟨buffer.length - 1, by omega⟩
    rw [bind_apply_ok h, decode, hb, decodeNested, bind_apply_ok h, decodeBody_eq]
    exact readBody_agree code (decodeNested_agree_decode bound) decode_forward rest (by omega)

/-! ## What follows a value does not matter -/

theorem readRecord_extends (value : Reader WireValue) : Extends (readRecord value) := by
  rw [readRecord_eq]
  exact (Extends.of_direct readRecordHeader_direct).bind fun header => .within _ _

theorem readBody_extends (value : Reader WireValue) (code : TypeCode) :
    Extends (readBody value code) := by
  by_cases hcode : code = .complex
  · subst hcode
    exact (readRecord_extends value).map _
  · exact .of_direct (readBody_direct value hcode)

theorem decode_extends : Extends decode := by
  rw [decode_eq]
  refine (Extends.of_direct readTypeCode_direct).bind fun code => ?_
  rw [decodeBody_eq]
  exact readBody_extends _ code

/-- Octets that are a value are that value, whatever follows them. -/
theorem decode_takes {p : Bytes} {v : WireValue} (h : decode p = .ok v []) : Takes decode p v :=
  decode_extends.takes h

end ThinClient.WireValue
