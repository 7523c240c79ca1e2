import ThinClient.Proofs.Value.RoundTrip

/-!
# Values are written back as they were read

A value has one form that is written, and the reader accepts others: every octet but 0 is true, and
the flags of a record are not looked at. Nothing else can be written in two ways, although the hash
of a record depends on how everything inside it is written.

* `Leeway` is a place at which octets leave a choice, and `Leeway.read` finds all of them, at any
  depth.
* `Spelled p q ls` compares what was read with what is written: as many octets, and the same ones
  if and only if every choice was made as the writer makes it.
* `readBody_yields` and `decodeNested_yields` follow the reader through a value.
* `encode_of_decode_eq_iff`: **octets that are a value are written back as they are if and only if
  all their truth values are 0 or 1 and all their flags are 3**, and in any case what is written has
  the same length and is the same value.
-/

namespace ThinClient

open Reader

/-! ## Places that leave a choice -/

/-- Octets of which the reader accepts more than the writer writes. -/
inductive Leeway where
  /-- The octet of a truth value. -/
  | truth (octet : UInt8)
  /-- The flags of a record. -/
  | flags (word : UInt16)
  deriving DecidableEq

namespace Leeway

/-- Whether the writer would write it so. -/
def isPlain : Leeway → Bool
  | truth octet => octet = 0 || octet = 1
  | flags word => word = 3

/-- Takes a field of a record. -/
def readField (value : Reader (List Leeway)) : Reader (List Leeway) := do
  let _id ← word Int32
  let _name ← WireValue.readNullableText
  value

/-- Takes the body of a record. -/
def readRecord (value : Reader (List Leeway)) : Reader (List Leeway) := do
  let _version ← word UInt8
  let flags ← word UInt16
  let _typeId ← word Int32
  let _hash ← word Int32
  let total ← length
  within (total - recordHeaderLength) do
    let _typeName ← WireValue.readNullableText
    let count ← length
    return .flags flags :: (← replicate count (readField value)).flatten

/-- Takes the body of a value of some kind; `value` takes the tagged values inside a record. -/
def readBody (value : Reader (List Leeway)) : TypeCode → Reader (List Leeway)
  | .bool => return [.truth (← word UInt8)]
  | .boolArray => List.map .truth <$> WireValue.readWords UInt8
  | .complex => readRecord value
  | code => (fun _ => []) <$> WireValue.readBody WireValue.decode code

/-- Takes a tagged value from at most `bound` octets. -/
def readNested : (bound : Nat) → Reader (List Leeway)
  | 0 => throw (.truncated 1 0)
  | bound + 1 => do readBody (readNested bound) (← WireValue.readTypeCode)

/-- Takes a tagged value and gives the choices that its octets leave, in order. -/
def read : Reader (List Leeway) := fun buffer =>
  readNested buffer.length buffer

end Leeway

/-! ## What is read and what is written -/

/-- The octets `q` are as many as `p`, and the same if and only if the choices in `p` are made
plainly. -/
structure Spelled (p q : Bytes) (leeways : List Leeway) : Prop where
  length_eq : q.length = p.length
  eq_iff : q = p ↔ ∀ l ∈ leeways, l.isPlain = true

namespace Spelled

variable {p q p' q' : Bytes} {ls ls' : List Leeway}

theorem refl (p : Bytes) : Spelled p p [] := ⟨rfl, by simp⟩

theorem append (h : Spelled p q ls) (h' : Spelled p' q' ls') :
    Spelled (p ++ p') (q ++ q') (ls ++ ls') := by
  constructor
  · rw [List.length_append, List.length_append, h.length_eq, h'.length_eq]
  · rw [List.append_eq_append_iff_of_size_eq_left h.length_eq, h.eq_iff, h'.eq_iff,
      List.forall_mem_append]

theorem truth (octet : UInt8) :
    Spelled (Word.encode octet) (encodeBool (octet != 0)) [.truth octet] := by
  rw [encode_octet]
  refine ⟨rfl, ?_⟩
  by_cases h0 : octet = 0
  · simp [h0, encodeBool, Leeway.isPlain]
  · simp only [encodeBool, bne_iff_ne, ne_eq, h0, not_false_eq_true, if_true, List.cons.injEq,
      and_true, List.mem_singleton, forall_eq, Leeway.isPlain, decide_false, Bool.false_or,
      decide_eq_true_eq]
    exact eq_comm

theorem truths (octets : List UInt8) :
    Spelled (octets.flatMap Word.encode) ((octets.map (· != 0)).flatMap encodeBool)
      (octets.map .truth) := by
  induction octets with
  | nil => exact refl []
  | cons octet octets ih => exact (truth octet).append ih

theorem flags (word : UInt16) :
    Spelled (Word.encode word) (Word.encode recordFlags) [.flags word] := by
  refine ⟨by rw [Word.length_encode, Word.length_encode], ?_⟩
  have hinj : Word.encode recordFlags = Word.encode word ↔ word = 3 := by
    constructor
    · intro h
      rw [← Word.decode_encode word, ← h, Word.decode_encode]
      rfl
    · rintro rfl
      rfl
  simp [hinj, Leeway.isPlain]

/-- A hash in front of octets changes nothing: it is another one only if the octets are. -/
theorem hashed (h : Spelled p q ls) (between : Bytes) :
    Spelled (Word.encode (hashBytes p) ++ (between ++ p))
      (Word.encode (hashBytes q) ++ (between ++ q)) ls := by
  constructor
  · simp only [List.length_append, Word.length_encode, h.length_eq]
  · have hlength : (Word.encode (hashBytes q)).length = (Word.encode (hashBytes p)).length := by
      rw [Word.length_encode, Word.length_encode]
    rw [List.append_eq_append_iff_of_size_eq_left hlength, List.append_cancel_left_eq, ← h.eq_iff]
    constructor
    · exact And.right
    · rintro rfl
      exact ⟨rfl, rfl⟩

end Spelled

/-- Octets are read for something that can be written, and the two are compared. -/
def Respelled (leeways : Reader (List Leeway)) (p : Bytes) (written : Except EncodeError Bytes) :
    Prop :=
  ∃ ls q, Takes leeways p ls ∧ written = .ok q ∧ Spelled p q ls

namespace WireValue

variable {α : Type}

/-! ## Plain octets -/

theorem readTypeCode_yields : Yields readTypeCode fun p code => p = [code.toByte] :=
  fun _ code _ h => ⟨[code.toByte], eq_cons_of_readTypeCode h, rfl⟩

theorem encodeLength_of_le {what : String} {n : Nat} (h : n ≤ greatestCount) :
    encodeLength what n = .ok (LittleEndian.encode 4 n) := by
  rw [encodeLength, if_pos h]

theorem readBool_yields :
    Yields readBool fun p b => ∃ octet : UInt8, p = Word.encode octet ∧ b = (octet != 0) :=
  (Yields.word UInt8).map fun _ octet hp => ⟨octet, hp, rfl⟩

theorem readText_yields : Yields readText fun p s => encodeText s = .ok p := by
  refine Yields.length.bind fun p n hp => (Yields.take n).bind fun q octets hq => ?_
  obtain ⟨rfl, hle⟩ := hp
  obtain ⟨rfl, rfl⟩ := hq
  split
  next s hs =>
    refine .pure ?_
    rw [encodeText, Utf8.encode_of_decode hs, encodeLength_of_le hle, List.append_nil]
    rfl
  next => exact .throw _

theorem readDate_yields : Yields readDate fun p d => p = Word.encode d.millis :=
  (Yields.word Int64).map fun _ _ hp => hp

theorem readTime_yields : Yields readTime fun p t => p = Word.encode t.millis :=
  (Yields.word Int64).map fun _ _ hp => hp

theorem readTimestamp_yields : Yields readTimestamp fun p t => p = encodeTimestamp t := by
  refine (Yields.word Int64).bind fun p millis hp => (Yields.word Int32).bind fun q nanos hq => ?_
  refine .check fun _ => ?_
  rw [Timestamp.new]
  split
  next t ht =>
    refine .pure ?_
    split at ht
    next =>
      cases ht
      rw [List.append_nil, hp, hq]
      rfl
    next => cases ht
  next => exact .throw _

/-! ## Arrays -/

theorem encodeArray_of_le {enc : α → Bytes} {as : List α} (h : as.length ≤ greatestCount) :
    encodeArray enc as = .ok (LittleEndian.encode 4 as.length ++ as.flatMap enc) := by
  rw [encodeArray, encodeLength_of_le h]
  rfl

theorem readArray_yields {element : Reader α} {enc : α → Bytes} (width : Nat)
    (h : Yields element fun p a => p = enc a) :
    Yields (readArray width element) fun p as => as.length ≤ greatestCount ∧
      p = LittleEndian.encode 4 as.length ++ as.flatMap enc := by
  refine Yields.length.bind fun p n hp => Yields.available.bind fun q left hq => ?_
  obtain ⟨rfl, hle⟩ := hp
  subst hq
  refine .check fun _ => (Yields.replicate (R := fun q as => q = as.flatMap enc) n rfl ?_ h).mono ?_
  · rintro q a q' as rfl rfl
    rfl
  · rintro q as ⟨rfl, rfl⟩
    exact ⟨hle, rfl⟩

theorem replicate_map {β : Type} (g : α → β) (n : Nat) (element : Reader α) :
    replicate n (g <$> element) = List.map g <$> replicate n element := by
  induction n with
  | zero => rfl
  | succ n ih => simp only [replicate, ih, bind_map_left, map_bind, map_pure, List.map_cons]

theorem readArray_map {β : Type} (g : α → β) (width : Nat) (element : Reader α) :
    readArray width (g <$> element) = List.map g <$> readArray width element := by
  simp only [readArray, replicate_map, map_bind]
  congr 1
  funext n
  congr 1
  funext left
  split <;> simp

/-- An array of truth values is read as one of octets, of which only 0 is false. -/
theorem readBools_yields :
    Yields (readArray 1 readBool) fun p bs =>
      Respelled (List.map .truth <$> readWords UInt8) p (encodeArray encodeBool bs) := by
  have hread : readArray 1 readBool = List.map (· != 0) <$> readWords UInt8 :=
    readArray_map (· != 0) 1 (word UInt8)
  rw [hread]
  refine (readArray_yields _ (Yields.word UInt8)).map fun p octets hp => ?_
  obtain ⟨hle, rfl⟩ := hp
  have htakes : Takes (readWords UInt8) _ octets :=
    encodeArray_takes Word.length_encode takes_word (encodeArray_of_le hle)
  have hwritten : encodeArray encodeBool (octets.map (· != 0)) = _ :=
    encodeArray_of_le (by rwa [List.length_map])
  rw [List.length_map] at hwritten
  exact ⟨_, _, htakes.map _, hwritten, (Spelled.refl _).append (.truths octets)⟩

theorem readNullable_yields {element : Reader α} {enc : α → Except EncodeError Bytes}
    (code : TypeCode) (h : Yields element fun p a => enc a = .ok p) :
    Yields (readNullable code element) fun p a => ∀ q as, encodeNullables code enc as = .ok q →
      encodeNullables code enc (a :: as) = .ok (p ++ q) := by
  refine readTypeCode_yields.bind fun p found hp => ?_
  subst hp
  split
  next hnull =>
    subst hnull
    refine .pure fun q as hq => ?_
    rw [encodeNullables, hq]
    rfl
  split
  next hcode =>
    subst hcode
    refine h.bind fun p a ha => .pure fun q as hq => ?_
    rw [encodeNullables, ha, hq, List.append_nil]
    rfl
  next => exact .throw _

theorem readNullables_yields {element : Reader α} {enc : α → Except EncodeError Bytes}
    (code : TypeCode) (h : Yields element fun p a => enc a = .ok p) :
    Yields (readNullables code element) fun p as => encodeNullableArray code enc as = .ok p := by
  refine Yields.length.bind fun p n hp => ?_
  obtain ⟨rfl, hle⟩ := hp
  refine (Yields.replicate (R := fun q as => encodeNullables code enc as = .ok q) n rfl ?_
    (readNullable_yields code h)).mono ?_
  · exact fun q a q' as ha has => ha q' as has
  · rintro q as ⟨rfl, has⟩
    rw [encodeNullableArray, encodeLength_of_le hle, has]
    rfl

/-! ## Records -/

theorem readNullableText_yields :
    Yields readNullableText fun p text => encodeNullableText text = .ok p := by
  intro buffer text rest hread
  cases buffer with
  | nil => cases hread
  | cons b after =>
    rw [readNullableText, expecting] at hread
    split at hread
    next => cases hread
    next found hfound =>
      have hb := TypeCode.toByte_of_ofByte? hfound
      split at hread
      next hnull =>
        cases hread
        refine ⟨[b], rfl, ?_⟩
        rw [← hb, hnull]
        rfl
      split at hread
      next hstring =>
        obtain ⟨p, rfl, s, hs, rfl⟩ := (readText_yields.map (g := some)
          (S := fun p text => ∃ s, encodeText s = .ok p ∧ text = some s)
          fun p s hs => ⟨s, hs, rfl⟩) _ _ _ hread
        refine ⟨b :: p, rfl, ?_⟩
        change encodeNullableText (some s) = _
        rw [encodeNullableText, hs, ← hb, hstring]
        rfl
      next => cases hread

theorem readName_yields (id : Int32) (missing mismatch : Defect) :
    Yields (readName id missing mismatch) fun p name =>
      nameId name = id ∧ encodeNullableText (some name) = .ok p := by
  refine readNullableText_yields.bind fun p text hp => ?_
  split
  next => exact .throw _
  next name =>
    split
    next hid =>
      refine .pure ⟨hid, ?_⟩
      rwa [List.append_nil]
    next => exact .throw _

/-- The octets of a record whose parts are known and which is not too long. -/
theorem encodeBody_complex {object : ComplexObject} {tag octets : Bytes} {total : Nat}
    (htag : encodeNullableText (some object.typeName) = .ok tag)
    (hcount : object.fields.length ≤ greatestCount)
    (hoctets : encodeFields object.fields = .ok octets)
    (htotal : recordHeaderLength + tag.length +
      (LittleEndian.encode 4 object.fields.length).length + octets.length = total)
    (hle : total ≤ greatestCount) :
    (complex object).encodeBody =
      .ok (Word.encode recordVersion ++ (Word.encode recordFlags ++
        (Word.encode (nameId object.typeName) ++ (Word.encode (hashBytes octets) ++
          (LittleEndian.encode 4 total ++
            (tag ++ (LittleEndian.encode 4 object.fields.length ++ octets))))))) := by
  rw [encodeBody, htag, encodeLength_of_le hcount, hoctets]
  change encodeRecord object.typeName tag (LittleEndian.encode 4 object.fields.length) octets = _
  rw [encodeRecord, htotal, encodeLength_of_le hle]
  simp only [bind, Except.bind, List.append_assoc]
  rfl

/-- What has no choices is written as it was read. -/
theorem respelled_plain {leeway : Reader (List Leeway)} {code : TypeCode} {v : WireValue}
    {p : Bytes} (hcode : v.typeCode = code)
    (hplain : Leeway.readBody leeway code = (fun _ => []) <$> readBody decode code)
    (h : v.encodeBody = .ok p) :
    v.typeCode = code ∧ Respelled (Leeway.readBody leeway code) p v.encodeBody := by
  subst hcode
  rw [hplain]
  exact ⟨rfl, [], p, (encodeBody_takes v h).map _, h, .refl p⟩

section Records

variable {value : Reader WireValue} {leeway : Reader (List Leeway)}
  (hvalue : Yields value fun p v => Respelled leeway p v.encode)

include hvalue

theorem readField_yields :
    Yields (readField value) fun p field => ∃ ls q, Takes (Leeway.readField leeway) p ls ∧
      Spelled p q ls ∧ ∀ rest octets, encodeFields rest = .ok octets →
        encodeFields (field :: rest) = .ok (q ++ octets) := by
  refine (Yields.word Int32).bind fun p id hp => ?_
  refine (readName_yields id _ _).bind fun tag name hname => ?_
  refine hvalue.bind fun octets v hv => .pure ?_
  obtain ⟨rfl, htag⟩ := hname
  obtain ⟨ls, q, htakes, hencode, hspelled⟩ := hv
  subst hp
  rw [List.append_nil]
  refine ⟨ls, Word.encode (nameId name) ++ (tag ++ q), ?_, ?_, fun rest more hmore => ?_⟩
  · exact (takes_word _).bind ((encodeNullableText_takes htag).bind htakes)
  · exact (Spelled.refl _).append ((Spelled.refl tag).append hspelled)
  · obtain ⟨body, hbody, hq⟩ := Except.bind_eq_ok hencode
    cases hq
    rw [encodeFields, htag, hbody, hmore]
    simp only [bind, Except.bind, pure, Except.pure, List.append_assoc]

theorem readFields_yields (n : Nat) :
    Yields (replicate n (readField value)) fun p fields => fields.length = n ∧ ∃ lss q,
      Takes (replicate fields.length (Leeway.readField leeway)) p lss ∧
        encodeFields fields = .ok q ∧ Spelled p q lss.flatten := by
  refine Yields.replicate n ⟨[], [], .pure [], rfl, .refl []⟩ ?_ (readField_yields hvalue)
  rintro p field ps fields ⟨ls, q, htakes, hspelled, hencode⟩
    ⟨lss, qs, htakes', hencode', hspelled'⟩
  refine ⟨ls :: lss, q ++ qs, ?_, hencode fields qs hencode', hspelled.append hspelled'⟩
  exact htakes.bind (htakes'.map (ls :: ·))

/-- What follows the header of a record, to the last octet. -/
theorem readRecordContent_respelled {typeId hash : Int32} {part left : Bytes}
    {object : ComplexObject} (h : readRecordContent value typeId hash part = .ok object left) :
    ∃ tag octets lss q, part = tag ++ (LittleEndian.encode 4 object.fields.length ++ octets) ∧
      encodeNullableText (some object.typeName) = .ok tag ∧ nameId object.typeName = typeId ∧
      object.fields.length ≤ greatestCount ∧ hash = hashBytes octets ∧
      Takes (replicate object.fields.length (Leeway.readField leeway)) octets lss ∧
      encodeFields object.fields = .ok q ∧ Spelled octets q lss.flatten := by
  obtain ⟨typeName, middle, hname, hafterName⟩ := bind_apply_eq_ok h
  obtain ⟨tag, rfl, hid, htag⟩ := readName_yields typeId _ _ _ _ _ hname
  obtain ⟨count, octets, hcount, hafterCount⟩ := bind_apply_eq_ok hafterName
  obtain ⟨p, rfl, rfl, hle⟩ := Yields.length _ _ _ hcount
  change (if hashBytes octets ≠ hash then throw _ >>= _ else _ : Reader ComplexObject) octets = _
    at hafterCount
  split at hafterCount
  next => cases hafterCount
  next hhash =>
    obtain ⟨fields, trailing, hfields, hafterFields⟩ := bind_apply_eq_ok hafterCount
    change (if trailing.length ≠ 0 then throw _ >>= _ else _ : Reader ComplexObject) trailing = _
      at hafterFields
    split at hafterFields
    next => cases hafterFields
    next hnone =>
      obtain rfl : trailing = [] := List.length_eq_zero_iff.mp (by simpa using hnone)
      cases hafterFields
      obtain ⟨p, hp, rfl, lss, q, htakes, hencode, hspelled⟩ :=
        readFields_yields hvalue _ _ _ _ hfields
      rw [List.append_nil] at hp
      subst hp
      exact ⟨tag, octets, lss, q, rfl, htag, hid, hle, (Decidable.not_not.mp hhash).symm, htakes,
        hencode, hspelled⟩

theorem readRecord_yields :
    Yields (readRecord value) fun p object =>
      Respelled (Leeway.readRecord leeway) p (complex object).encodeBody := by
  refine (Yields.word UInt8).bind fun p version hp => .check fun hversion => ?_
  refine (Yields.word UInt16).bind fun pflags flags hflags => ?_
  refine (Yields.word Int32).bind fun ptype typeId htype => ?_
  refine (Yields.word Int32).bind fun phash hash hhash => ?_
  refine Yields.length.bind fun ptotal total htotal => .check fun hlong => ?_
  refine (Yields.within _ _).mono fun part object hpart => ?_
  obtain ⟨hlength, left, hcontent⟩ := hpart
  obtain ⟨tag, octets, lss, q, rfl, htag, rfl, hle, rfl, htakes, hencode, hspelled⟩ :=
    readRecordContent_respelled hvalue hcontent
  obtain ⟨rfl, htotalLe⟩ := htotal
  obtain rfl : version = recordVersion := Decidable.not_not.mp hversion
  subst hp hflags htype hhash
  -- The total that is written is the one that was read, as the fields keep their length.
  have htotal : recordHeaderLength + tag.length +
      (LittleEndian.encode 4 object.fields.length).length + q.length = total := by
    rw [hspelled.length_eq]
    simp only [List.length_append] at hlength
    omega
  have hwritten := encodeBody_complex htag hle hencode htotal htotalLe
  have hheader := ((Spelled.refl (Word.encode recordVersion)).append (.flags flags)).append
    (.refl (Word.encode (nameId object.typeName)))
  have hhashed := hspelled.hashed
    (LittleEndian.encode 4 total ++ (tag ++ LittleEndian.encode 4 object.fields.length))
  have hall := hheader.append hhashed
  simp only [List.append_assoc] at hall
  refine ⟨_, _, ?_, hwritten, hall⟩
  refine (takes_word recordVersion).bind ((takes_word flags).bind ((takes_word _).bind
    ((takes_word _).bind ((takes_count htotalLe).bind ?_))))
  rw [← hlength]
  refine takes_within (Takes.exactly ?_)
  exact (encodeNullableText_takes htag).bind
    ((takes_count hle).bind (htakes.bind_nil (.pure _)))

theorem readBody_yields (code : TypeCode) :
    Yields (readBody value code) fun p v => v.typeCode = code ∧
      Respelled (Leeway.readBody leeway code) p v.encodeBody := by
  cases code with
  | bool =>
    refine readBool_yields.map fun p b h => ⟨rfl, ?_⟩
    obtain ⟨octet, rfl, rfl⟩ := h
    exact ⟨_, _, (takes_word octet).bind_nil (.pure _), rfl, .truth octet⟩
  | boolArray => exact readBools_yields.map fun p bs h => ⟨rfl, h⟩
  | complex => exact (readRecord_yields hvalue).map fun p object h => ⟨rfl, h⟩
  | byte | short | int | long | float | double | char | uuid =>
    exact (Yields.word _).map fun p a hp => respelled_plain rfl rfl (hp ▸ rfl)
  | string => exact readText_yields.map fun p s hs => respelled_plain rfl rfl hs
  | date => exact readDate_yields.map fun p d hd => respelled_plain rfl rfl (hd ▸ rfl)
  | time => exact readTime_yields.map fun p t ht => respelled_plain rfl rfl (ht ▸ rfl)
  | timestamp => exact readTimestamp_yields.map fun p t ht => respelled_plain rfl rfl (ht ▸ rfl)
  | byteArray | shortArray | intArray | longArray | floatArray | doubleArray | charArray =>
    refine (readArray_yields _ (Yields.word _)).map fun p as has => ?_
    exact respelled_plain rfl rfl (has.2 ▸ encodeArray_of_le has.1)
  | stringArray =>
    exact (readNullables_yields _ readText_yields).map fun p as has => respelled_plain rfl rfl has
  | uuidArray =>
    exact (readNullables_yields _ ((Yields.word Uuid).mono fun p a hp => hp ▸ rfl)).map
      fun p as has => respelled_plain rfl rfl has
  | dateArray =>
    exact (readNullables_yields _ (readDate_yields.mono fun p a hp => hp ▸ rfl)).map
      fun p as has => respelled_plain rfl rfl has
  | timestampArray =>
    exact (readNullables_yields _ (readTimestamp_yields.mono fun p a hp => hp ▸ rfl)).map
      fun p as has => respelled_plain rfl rfl has
  | timeArray =>
    exact (readNullables_yields _ (readTime_yields.mono fun p a hp => hp ▸ rfl)).map
      fun p as has => respelled_plain rfl rfl has
  | null => exact .pure (respelled_plain rfl rfl rfl)

end Records

theorem decodeNested_yields (bound : Nat) :
    Yields (decodeNested bound) fun p v => Respelled (Leeway.readNested bound) p v.encode := by
  induction bound with
  | zero => exact .throw _
  | succ bound ih =>
    refine readTypeCode_yields.bind fun p code hp => (readBody_yields ih code).mono ?_
    rintro p' v ⟨rfl, ls, q, htakes, hwritten, hspelled⟩
    subst hp
    refine ⟨ls, v.typeCode.toByte :: q, (readTypeCode_takes v.typeCode).bind htakes, ?_,
      (Spelled.refl [v.typeCode.toByte]).append hspelled⟩
    rw [encode, hwritten]
    rfl

/-- **What is read as a value is written in as many octets, which are that value again, and they
are the same octets if and only if** every truth value in what was read, at any depth, is 0 or 1,
and the flags of every record are 3. -/
theorem encode_of_decode_eq_iff {p : Bytes} {v : WireValue} (h : decode p = .ok v []) :
    ∃ q leeways, v.encode = .ok q ∧ q.length = p.length ∧ decode q = .ok v [] ∧
      Leeway.read p = .ok leeways [] ∧ (q = p ↔ ∀ l ∈ leeways, l.isPlain = true) := by
  obtain ⟨p', hp, leeways, q, htakes, hwritten, hspelled⟩ := decodeNested_yields p.length p v [] h
  rw [List.append_nil] at hp
  subst hp
  obtain ⟨body, hbody, hq⟩ := Except.bind_eq_ok hwritten
  cases hq
  refine ⟨_, leeways, hwritten, hspelled.length_eq, ?_, htakes.exactly, hspelled.eq_iff⟩
  exact (decode_takes_of_body (encodeBody_takes v hbody)).exactly

/-- An object within an object, with truth values in both. -/
def truthRecord : WireValue :=
  .complex ⟨"Pe", [("on", .boolArray [true, false]), ("q", .complex ⟨"Q", [("b", .bool true)]⟩)]⟩

/-- Octets of `truthRecord` with three choices that the writer does not make. -/
def respelledOctets : Bytes :=
  [103, 1, 3, 0, 245, 13, 0, 0, 219, 128, 72, 153, 92, 0, 0, 0, 9, 2, 0, 0, 0, 80, 101, 2, 0, 0, 0,
    223, 13, 0, 0, 9, 2, 0, 0, 0, 111, 110, 19, 2, 0, 0, 0, 7, 0, 113, 0, 0, 0, 9, 1, 0, 0, 0, 113,
    103, 1, 5, 1, 113, 0, 0, 0, 79, 143, 211, 205, 37, 0, 0, 0, 9, 1, 0, 0, 0, 81, 1, 0, 0, 0,
    98, 0, 0, 0, 9, 1, 0, 0, 0, 98, 8, 255]

set_option maxRecDepth 4000 in
theorem encode_of_decode_eq_iff_respelled :
    decode respelledOctets = .ok truthRecord [] ∧
      Leeway.read respelledOctets =
        .ok [.flags 3, .truth 7, .truth 0, .flags 0x0105, .truth 255] [] ∧
      ∃ q, truthRecord.encode = .ok q ∧ q.length = respelledOctets.length ∧
        decode q = .ok truthRecord [] ∧ q ≠ respelledOctets := by
  have hread : decode respelledOctets = .ok truthRecord [] := rfl
  have hleeways : Leeway.read respelledOctets =
      .ok [.flags 3, .truth 7, .truth 0, .flags 0x0105, .truth 255] [] := by cbv
  obtain ⟨q, leeways, hwritten, hlength, hback, hfound, heq⟩ := encode_of_decode_eq_iff hread
  cases hleeways.symm.trans hfound
  exact ⟨hread, hleeways, q, hwritten, hlength, hback, fun h => absurd (heq.mp h) (by decide)⟩

end WireValue

end ThinClient
