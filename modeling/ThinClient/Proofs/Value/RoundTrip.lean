import ThinClient.Proofs.Utf8
import ThinClient.Proofs.Value.Nesting

/-!
# Values are read back from their octets

Whatever `WireValue.encode` gives for a value, `WireValue.decode` takes exactly that from the front
of a buffer and gives the same value, down to the bits of its floats; without the type code the same
holds of `WireValue.encodeBody` and `WireValue.decodeBody`. The main statement is
`encode_decode_append`.

There is one lemma for each shape that octets have: words, truth values, texts and instants, plain
arrays (`encodeArray_takes`), arrays with nulls (`encodeNullableArray_takes`), and records
(`encodeRecord_takes`), whose octets repeat an id, a hash and a length that the reader compares with
what it finds. `encodeBody_takes` and `encodeFields_takes` put these together along the value.
-/

namespace ThinClient.WireValue

open Reader

variable {α : Type} {p : Bytes}

/-! ## Plain octets -/

theorem readTypeCode_takes (c : TypeCode) : Takes readTypeCode [c.toByte] c := by
  intro rest
  rw [List.singleton_append, readTypeCode_cons, TypeCode.ofByte?_toByte]

theorem length_encodeBool (b : Bool) : (encodeBool b).length = 1 := rfl

theorem encodeBool_takes (b : Bool) : Takes readBool (encodeBool b) b := by
  have h := (takes_octet (if b then 1 else 0)).map (· != 0)
  cases b <;> exact h

theorem encodeText_takes {s : String} (h : encodeText s = .ok p) : Takes readText p s := by
  obtain ⟨length, hlength, h⟩ := Except.bind_eq_ok h
  cases h
  refine (takes_length hlength).bind ((takes_take _).bind_nil ?_)
  rw [Utf8.decode_encode]
  exact .pure s

theorem readDate_takes (d : Date) : Takes readDate (Word.encode d.millis) d :=
  (takes_word d.millis).map Date.mk

theorem readTime_takes (t : Time) : Takes readTime (Word.encode t.millis) t :=
  (takes_word t.millis).map Time.mk

theorem encodeTimestamp_takes (t : Timestamp) : Takes readTimestamp (encodeTimestamp t) t := by
  have hsmall : t.nanos.toNat ≤ greatestCount := by
    have := t.nanos_lt
    rw [greatestCount]
    omega
  have hencode : Word.encode t.nanos = Word.encode (Int32.ofNat t.nanos.toNat) :=
    (encode_ofNat hsmall).symm
  have hint : (Int32.ofNat t.nanos.toNat).toInt = t.nanos.toNat :=
    Int32.toInt_ofNat_of_lt (by rw [greatestCount] at hsmall; omega)
  have hneg : ¬ Int32.ofNat t.nanos.toNat < 0 := by
    rw [Int32.lt_iff_toInt_lt, hint]
    simp
  have hback : (Int32.ofNat t.nanos.toNat).toUInt32 = t.nanos := by
    rw [Int32.toUInt32_ofNat', UInt32.ofNat_toNat]
  have hnew : Timestamp.new t.millis t.nanos = .ok t := by
    rw [Timestamp.new, dif_pos t.nanos_lt]
  refine (takes_word t.millis).bind ?_
  rw [hencode]
  refine (takes_word _).bind_nil (.check hneg ?_)
  rw [hback, hnew]
  exact .pure t

/-! ## Arrays -/

theorem length_flatMap_of_width {enc : α → Bytes} {width : Nat} (as : List α)
    (h : ∀ a, (enc a).length = width) : (as.flatMap enc).length = as.length * width := by
  induction as with
  | nil => simp
  | cons a as ih =>
    rw [List.flatMap_cons, List.length_append, h, ih, List.length_cons, Nat.add_mul]
    omega

theorem encodeArray_takes {element : Reader α} {enc : α → Bytes} {width : Nat} {as : List α}
    (hwidth : ∀ a, (enc a).length = width) (helement : ∀ a, Takes element (enc a) a)
    (h : encodeArray enc as = .ok p) : Takes (readArray width element) p as := by
  obtain ⟨length, hlength, h⟩ := Except.bind_eq_ok h
  cases h
  refine (takes_length hlength).bind fun rest => ?_
  have hlen := length_flatMap_of_width as hwidth
  change (if (as.flatMap enc ++ rest).length < as.length * width then _
    else replicate as.length element) _ = _
  rw [if_neg (by rw [List.length_append]; omega)]
  exact takes_replicate (fun a _ => helement a) rest

theorem encodeNullables_takes {element : Reader α} {enc : α → Except EncodeError Bytes}
    {code : TypeCode} {as : List (Option α)} (hcode : code ≠ .null)
    (helement : ∀ a p, enc a = .ok p → Takes element p a)
    (h : encodeNullables code enc as = .ok p) :
    Takes (replicate as.length (readNullable code element)) p as := by
  induction as generalizing p with
  | nil =>
    cases h
    exact .pure []
  | cons a as ih =>
    cases a with
    | none =>
      obtain ⟨q, hq, h⟩ := Except.bind_eq_ok h
      cases h
      refine Takes.bind (p := [TypeCode.null.toByte]) (a := none) ?_ ((ih hq).map (none :: ·))
      refine (readTypeCode_takes .null).bind_nil ?_
      rw [if_pos rfl]
      exact .pure none
    | some a =>
      obtain ⟨body, hbody, h⟩ := Except.bind_eq_ok h
      obtain ⟨q, hq, h⟩ := Except.bind_eq_ok h
      cases h
      refine Takes.bind (p := code.toByte :: body) (a := some a) ?_ ((ih hq).map (some a :: ·))
      refine (readTypeCode_takes code).bind ?_
      rw [if_neg hcode, if_pos rfl]
      exact (helement a body hbody).map some

theorem encodeNullableArray_takes {element : Reader α} {enc : α → Except EncodeError Bytes}
    {code : TypeCode} {as : List (Option α)} (hcode : code ≠ .null)
    (helement : ∀ a p, enc a = .ok p → Takes element p a)
    (h : encodeNullableArray code enc as = .ok p) : Takes (readNullables code element) p as := by
  obtain ⟨length, hlength, h⟩ := Except.bind_eq_ok h
  obtain ⟨items, hitems, h⟩ := Except.bind_eq_ok h
  cases h
  exact (takes_length hlength).bind (encodeNullables_takes hcode helement hitems)

theorem encodeNullableArray_takes_of_total {element : Reader α} {enc : α → Bytes}
    {code : TypeCode} {as : List (Option α)} (hcode : code ≠ .null)
    (helement : ∀ a, Takes element (enc a) a)
    (h : encodeNullableArray code (fun a => return enc a) as = .ok p) :
    Takes (readNullables code element) p as := by
  refine encodeNullableArray_takes hcode (fun a q hq => ?_) h
  cases hq
  exact helement a

/-! ## Records -/

theorem encodeNullableText_takes {text : Option String} (h : encodeNullableText text = .ok p) :
    Takes readNullableText p text := by
  intro rest
  cases text with
  | none =>
    cases h
    rfl
  | some s =>
    obtain ⟨body, hbody, h⟩ := Except.bind_eq_ok h
    cases h
    rw [List.cons_append, readNullableText, expecting]
    exact (encodeText_takes hbody).map some rest

theorem readName_takes {name : String} {id : Int32} {missing mismatch : Defect}
    (hid : nameId name = id) (h : encodeNullableText (some name) = .ok p) :
    Takes (readName id missing mismatch) p name := by
  refine (encodeNullableText_takes h).bind_nil ?_
  dsimp only
  rw [if_pos hid]
  exact .pure name

theorem readRecordContent_apply {typeName : String} {tag count octets : Bytes}
    {fields : List (String × WireValue)}
    (htag : encodeNullableText (some typeName) = .ok tag)
    (hcount : encodeLength "complex object fields" fields.length = .ok count)
    (hfields : Takes (replicate fields.length (readField decode)) octets fields) :
    readRecordContent decode (nameId typeName) (hashBytes octets) (tag ++ count ++ octets) =
      .ok ⟨typeName, fields⟩ [] := by
  rw [List.append_assoc, readRecordContent, bind_apply_ok (readName_takes rfl htag _),
    bind_apply_ok (takes_length hcount _)]
  change (if hashBytes octets ≠ hashBytes octets then _ else _ : Reader ComplexObject) octets = _
  rw [if_neg (by simp), bind_apply_ok hfields.exactly]
  rfl

theorem encodeRecord_takes {typeName : String} {tag count octets : Bytes}
    {fields : List (String × WireValue)}
    (htag : encodeNullableText (some typeName) = .ok tag)
    (hcount : encodeLength "complex object fields" fields.length = .ok count)
    (hfields : Takes (replicate fields.length (readField decode)) octets fields)
    (h : encodeRecord typeName tag count octets = .ok p) :
    Takes (readRecord decode) p ⟨typeName, fields⟩ := by
  obtain ⟨length, hlength, h⟩ := Except.bind_eq_ok h
  cases h
  have hcontent := readRecordContent_apply htag hcount hfields
  simp only [List.append_assoc, List.cons_append] at hcontent ⊢
  refine (takes_octet recordVersion).bind (.check (by simp) ?_)
  refine (takes_word recordFlags).bind ?_
  refine (takes_word _).bind ((takes_word _).bind ((takes_length hlength).bind (.check ?_ ?_)))
  · omega
  · have hrest : recordHeaderLength + tag.length + count.length + octets.length -
        recordHeaderLength = (tag ++ (count ++ octets)).length := by
      simp only [List.length_append]
      omega
    rw [hrest]
    exact takes_within hcontent

/-! ## Values -/

theorem decode_takes_of_body {v : WireValue} (h : Takes (readBody decode v.typeCode) p v) :
    Takes decode (v.typeCode.toByte :: p) v := by
  rw [decode_eq]
  refine (readTypeCode_takes v.typeCode).bind ?_
  rw [decodeBody_eq]
  exact h

theorem readField_takes {name : String} {v : WireValue} {tag : Bytes}
    (htag : encodeNullableText (some name) = .ok tag)
    (hv : Takes (readBody decode v.typeCode) p v) :
    Takes (readField decode) (Word.encode (nameId name) ++ tag ++ v.typeCode.toByte :: p)
      (name, v) := by
  rw [List.append_assoc]
  refine (takes_word (nameId name)).bind ((readName_takes rfl htag).bind ?_)
  exact (decode_takes_of_body hv).map (name, ·)

mutual

theorem encodeBody_takes : (v : WireValue) → {p : Bytes} → v.encodeBody = .ok p →
    Takes (readBody decode v.typeCode) p v
  | byte v, _, h | short v, _, h | int v, _, h | long v, _, h | float v, _, h | double v, _, h
  | char v, _, h | uuid v, _, h => by
    cases h
    exact (takes_word v).map _
  | bool v, _, h => by
    cases h
    exact (encodeBool_takes v).map bool
  | string v, _, h => (encodeText_takes h).map string
  | date v, _, h => by
    cases h
    exact (readDate_takes v).map date
  | time v, _, h => by
    cases h
    exact (readTime_takes v).map time
  | timestamp v, _, h => by
    cases h
    exact (encodeTimestamp_takes v).map timestamp
  | byteArray vs, _, h | shortArray vs, _, h | intArray vs, _, h | longArray vs, _, h
  | floatArray vs, _, h | doubleArray vs, _, h | charArray vs, _, h =>
    (encodeArray_takes Word.length_encode takes_word h).map _
  | boolArray vs, _, h =>
    (encodeArray_takes length_encodeBool encodeBool_takes h).map boolArray
  | stringArray vs, _, h =>
    (encodeNullableArray_takes (by decide) (fun _ _ => encodeText_takes) h).map stringArray
  | uuidArray vs, _, h =>
    (encodeNullableArray_takes_of_total (by decide) takes_word h).map uuidArray
  | dateArray vs, _, h =>
    (encodeNullableArray_takes_of_total (by decide) readDate_takes h).map dateArray
  | timestampArray vs, _, h =>
    (encodeNullableArray_takes_of_total (by decide) encodeTimestamp_takes h).map timestampArray
  | timeArray vs, _, h =>
    (encodeNullableArray_takes_of_total (by decide) readTime_takes h).map timeArray
  | null, _, h => by
    cases h
    exact .pure null
  | complex ⟨typeName, fields⟩, _, h => by
    obtain ⟨tag, htag, h⟩ := Except.bind_eq_ok h
    obtain ⟨count, hcount, h⟩ := Except.bind_eq_ok h
    obtain ⟨octets, hoctets, h⟩ := Except.bind_eq_ok h
    exact (encodeRecord_takes htag hcount (encodeFields_takes fields hoctets) h).map complex

theorem encodeFields_takes : (fields : List (String × WireValue)) → {p : Bytes} →
    encodeFields fields = .ok p → Takes (replicate fields.length (readField decode)) p fields
  | [], _, h => by
    cases h
    exact .pure []
  | (name, v) :: rest, _, h => by
    obtain ⟨tag, htag, h⟩ := Except.bind_eq_ok h
    obtain ⟨body, hbody, h⟩ := Except.bind_eq_ok h
    obtain ⟨others, hothers, h⟩ := Except.bind_eq_ok h
    cases h
    have hfield := readField_takes htag (encodeBody_takes v hbody)
    exact hfield.bind ((encodeFields_takes rest hothers).map ((name, v) :: ·))

end

theorem encode_takes {v : WireValue} (h : v.encode = .ok p) : Takes decode p v := by
  obtain ⟨body, hbody, h⟩ := Except.bind_eq_ok h
  cases h
  exact decode_takes_of_body (encodeBody_takes v hbody)

/-- **Values are read back from their octets**, with and without their type code, and what follows
them is left as it is. -/
theorem encode_decode_append (v : WireValue) (rest : Bytes) :
    (∀ octets, v.encode = .ok octets → decode (octets ++ rest) = .ok v rest) ∧
      (∀ octets, v.encodeBody = .ok octets →
        decodeBody v.typeCode (octets ++ rest) = .ok v rest) := by
  constructor
  · intro octets h
    obtain ⟨body, hbody, h⟩ := Except.bind_eq_ok h
    cases h
    exact decode_takes_of_body (encodeBody_takes v hbody) rest
  · intro octets h
    rw [decodeBody_eq]
    exact encodeBody_takes v h rest

/-- An object within an object, with a number that is not one, beside an array with a gap. -/
def nestedRecord : WireValue :=
  .complex ⟨"Pe", [("id", .complex ⟨"Q", [("x", .float ⟨0x7fc00001⟩)]⟩),
    ("tags", .stringArray [some "é", none])]⟩

/-- The octets of `nestedRecord`. -/
def nestedRecordOctets : Bytes :=
  [103, 1, 3, 0, 245, 13, 0, 0, 219, 12, 164, 41, 104, 0, 0, 0, 9, 2, 0, 0, 0, 80, 101, 2, 0, 0, 0,
    27, 13, 0, 0, 9, 2, 0, 0, 0, 105, 100, 103, 1, 3, 0, 113, 0, 0, 0, 139, 20, 58, 28, 40, 0, 0, 0,
    9, 1, 0, 0, 0, 81, 1, 0, 0, 0, 120, 0, 0, 0, 9, 1, 0, 0, 0, 120, 5, 1, 0, 192, 127, 25, 52, 54,
    0, 9, 4, 0, 0, 0, 116, 97, 103, 115, 20, 2, 0, 0, 0, 9, 2, 0, 0, 0, 195, 169, 101]

theorem encode_decode_append_nestedRecord :
    decode (nestedRecordOctets ++ [7, 7]) = .ok nestedRecord [7, 7] ∧
      decodeBody .complex (nestedRecordOctets.tail ++ [7, 7]) = .ok nestedRecord [7, 7] :=
  ⟨(encode_decode_append nestedRecord [7, 7]).1 nestedRecordOctets (by cbv),
    (encode_decode_append nestedRecord [7, 7]).2 nestedRecordOctets.tail (by cbv)⟩

end ThinClient.WireValue
