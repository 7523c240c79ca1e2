import ThinClient.Proofs.Value.Delimiting
import ThinClient.Proofs.Value.RoundTrip
import ThinClient.Proofs.Value.Spelling

/-!
# Damaged records

The header of a record holds an id of its type name, a hash of its fields and its length. This module
says which damage they guard against: one octet of the record that has become another one.

* `hashBytes_ne_of_altered`: the hash of octets is another one if one of them is, wherever it
  stands, since 31 has an inverse modulo `2 ^ 32`.
* A damaged length moves the end of the record (`readRecordContent_of_length`), and a damaged count
  the end of its fields (`readRecordContent_of_count`). The hash is then taken of other octets, or of
  the right ones, and does not help; what is left of the octets, or missing, does.
* `decodeBody_of_damaged`: **a record with one octet changed is refused**, whatever follows it,
  unless the octet is one of the flags or belongs to the length or the text of the type name. If it
  belongs to the fields, at any depth, it is the hash that is found to be wrong.
-/

namespace ThinClient

variable {i : Nat} {p p' q r : Bytes}

/-! ## Octets that have changed -/

/-- The octets `p'` are `p` but for the one at an index. -/
def Altered (i : Nat) (p p' : Bytes) : Prop :=
  ∃ (_ : i < p.length) (octet : UInt8), octet ≠ p[i] ∧ p' = p.set i octet

namespace Altered

theorem length_eq (h : Altered i p p') : p'.length = p.length := by
  obtain ⟨hi, octet, -, rfl⟩ := h
  exact List.length_set

theorem ne (h : Altered i p p') : p' ≠ p := by
  obtain ⟨hi, octet, hne, rfl⟩ := h
  intro heq
  have hget : (p.set i octet)[i]? = p[i]? := by rw [heq]
  rw [List.getElem?_set_self hi, List.getElem?_eq_getElem hi] at hget
  exact hne (Option.some.inj hget)

/-- The change is in the one part or in the other. -/
theorem of_append (h : Altered i (p ++ q) r) :
    (∃ p', Altered i p p' ∧ r = p' ++ q) ∨
      ∃ j q', i = p.length + j ∧ Altered j q q' ∧ r = p ++ q' := by
  obtain ⟨hi, octet, hne, rfl⟩ := h
  by_cases hp : i < p.length
  · rw [List.getElem_append_left hp] at hne
    exact .inl ⟨_, ⟨hp, octet, hne, rfl⟩, List.set_append_left _ _ hp⟩
  · have hq : i - p.length < q.length := by
      rw [List.length_append] at hi
      omega
    rw [List.getElem_append_right (by omega)] at hne
    exact .inr ⟨i - p.length, _, by omega, ⟨hq, octet, hne, rfl⟩,
      List.set_append_right _ _ (by omega)⟩

/-- Octets that are as many as a word has are a word, after a change another one. -/
theorem of_word {α : Type} [Word α] {a : α} (h : Altered i (Word.encode a) p') :
    ∃ b : α, b ≠ a ∧ p' = Word.encode b := by
  have hlength : p'.length = Word.width α := h.length_eq.trans (Word.length_encode a)
  refine ⟨Word.decode α p', ?_, (Word.encode_decode p' hlength).symm⟩
  rintro rfl
  exact h.ne (Word.encode_decode p' hlength).symm

end Altered

/-! ## Hashes -/

/-- One octet more to hash. -/
def hashStep (h : UInt32) (b : UInt8) : UInt32 :=
  31 * h + b.toUInt32

theorem hashStep_inj {h h' : UInt32} {b : UInt8} (heq : hashStep h b = hashStep h' b) : h = h' := by
  have hmul : 31 * h = 31 * h' := UInt32.add_left_inj b.toUInt32 |>.mp heq
  -- 31 * 3186588639 = 23 * 2 ^ 32 + 1
  have hinverse : (3186588639 : UInt32) * 31 = 1 := by decide
  calc
    h = 3186588639 * (31 * h) := by rw [← UInt32.mul_assoc, hinverse, UInt32.one_mul]
    _ = 3186588639 * (31 * h') := by rw [hmul]
    _ = h' := by rw [← UInt32.mul_assoc, hinverse, UInt32.one_mul]

/-- Whatever is hashed after them, different octets stay different. -/
theorem foldl_hashStep_inj {h h' : UInt32} (bs : Bytes)
    (heq : bs.foldl hashStep h = bs.foldl hashStep h') : h = h' := by
  induction bs generalizing h h' with
  | nil => exact heq
  | cons b bs ih => exact hashStep_inj (ih heq)

theorem hashStep_octet_inj {h : UInt32} {b c : UInt8} (heq : hashStep h b = hashStep h c) :
    b = c := by
  have hword : b.toUInt32 = c.toUInt32 := UInt32.add_right_inj (31 * h) |>.mp heq
  have hnum := congrArg UInt32.toNat hword
  rw [UInt8.toNat_toUInt32, UInt8.toNat_toUInt32] at hnum
  exact UInt8.toNat_inj.mp hnum

/-- **The hash of octets is another one if one of them is.** -/
theorem hashBytes_ne_of_altered (h : Altered i p p') : hashBytes p' ≠ hashBytes p := by
  obtain ⟨hi, octet, hne, rfl⟩ := h
  intro heq
  have hfold : (p.set i octet).foldl hashStep 0 = p.foldl hashStep 0 :=
    congrArg Int32.toUInt32 heq
  have hparts : p = p.take i ++ p[i] :: p.drop (i + 1) := by simp
  rw [List.set_eq_take_append_cons_drop, if_pos hi] at hfold
  conv at hfold => rhs; rw [hparts]
  rw [List.foldl_append, List.foldl_append, List.foldl_cons, List.foldl_cons] at hfold
  exact hne (hashStep_octet_inj (foldl_hashStep_inj _ hfold))

/-! ## Readers that refuse -/

namespace Reader

variable {α β : Type} {reader : Reader α} {next : α → Reader β} {buffer : Bytes}

/-- The reader gives no value. -/
def Refuses (reader : Reader α) (buffer : Bytes) : Prop :=
  ∃ e left, reader buffer = .error e left

theorem Refuses.bind (h : Refuses reader buffer) : Refuses (reader >>= next) buffer := by
  obtain ⟨e, left, h⟩ := h
  exact ⟨e, left, bind_apply_error h⟩

theorem RanOut.refuses (h : RanOut (reader buffer)) : Refuses reader buffer := by
  obtain ⟨requested, available, left, herror, -⟩ := h
  exact ⟨_, left, herror⟩

/-- Nothing is read from a part of the buffer if nothing is read from any part of that length. -/
theorem refuses_within {size : Nat}
    (h : ∀ part after, buffer = part ++ after → part.length = size → Refuses reader part) :
    Refuses (within size reader) buffer := by
  by_cases hfew : buffer.length < size
  · refine ⟨.truncated size buffer.length, buffer, ?_⟩
    rw [within, take, if_pos hfew]
  · have hparts := (List.take_append_drop size buffer).symm
    have hlength : (buffer.take size).length = size := List.length_take_of_le (by omega)
    obtain ⟨e, left, herror⟩ := h _ _ hparts hlength
    refine ⟨e, buffer.drop size, ?_⟩
    have hwithin := within_of_error herror (buffer.drop size)
    rwa [hlength, ← hparts] at hwithin

theorem Refuses.within (h : Refuses reader p) (rest : Bytes) :
    Refuses (within p.length reader) (p ++ rest) := by
  obtain ⟨e, left, h⟩ := h
  exact ⟨e, rest, within_of_error h rest⟩

/-- A count that has changed is refused or is another count. -/
theorem length_of_altered {n : Nat} (h : Altered i (LittleEndian.encode 4 n) p) (rest : Bytes) :
    Refuses length (p ++ rest) ∨ ∃ m, m ≠ n ∧ length (p ++ rest) = .ok m rest := by
  cases hread : length (p ++ rest) with
  | error e left => exact .inl ⟨e, left, hread⟩
  | ok m left =>
    obtain ⟨front, hfront, rfl, -⟩ := Yields.length _ _ _ hread
    have hsame : p.length = (LittleEndian.encode 4 m).length := by
      rw [h.length_eq, LittleEndian.length_encode, LittleEndian.length_encode]
    obtain ⟨rfl, rfl⟩ := List.append_inj hfront hsame
    refine .inr ⟨m, ?_, rfl⟩
    rintro rfl
    exact h.ne rfl

/-- If each takes something, there is only one number of things to take from the buffer until
nothing is left. -/
theorem replicate_unique (hnil : Refuses reader []) {n m : Nat} {as bs : List α}
    (hn : replicate n reader buffer = .ok as []) (hm : replicate m reader buffer = .ok bs []) :
    m = n := by
  obtain ⟨e, left, hnil⟩ := hnil
  induction n generalizing m buffer as bs with
  | zero =>
    cases hn
    cases m with
    | zero => rfl
    | succ m =>
      obtain ⟨a, middle, ha, -⟩ := bind_apply_eq_ok hm
      cases hnil.symm.trans ha
  | succ n ih =>
    obtain ⟨a, middle, ha, hn⟩ := bind_apply_eq_ok hn
    cases m with
    | zero =>
      cases hm
      cases hnil.symm.trans ha
    | succ m =>
      obtain ⟨b, middle', hb, hm⟩ := bind_apply_eq_ok hm
      cases ha.symm.trans hb
      obtain ⟨as, left, has, hn⟩ := bind_apply_eq_ok hn
      obtain ⟨bs, left', hbs, hm⟩ := bind_apply_eq_ok hm
      cases hn
      cases hm
      exact congrArg (· + 1) (ih has hbs)

end Reader

namespace WireValue

open Reader

/-! ## What follows the header -/

section Content

variable {typeName : String} {tag octets : Bytes} {n : Nat} {typeId hash : Int32}

theorem readNullableText_asksForMore : AsksForMore readNullableText := by
  intro buffer more text rest h
  cases buffer with
  | nil => exact .inr ⟨1, 0, [], rfl, Nat.one_pos⟩
  | cons b after =>
    rw [List.cons_append, readNullableText, expecting] at h
    rw [readNullableText, expecting]
    cases hfound : TypeCode.ofByte? b with
    | none =>
      rw [hfound] at h
      cases h
    | some found =>
      rw [hfound] at h
      dsimp only at h ⊢
      by_cases hnull : found = .null
      · rw [if_pos hnull] at h ⊢
        cases h
        exact .inl ⟨after, rfl, rfl⟩
      rw [if_neg hnull] at h ⊢
      by_cases hstring : found = .string
      · rw [if_pos hstring] at h ⊢
        exact (AsksForMore.of_direct readText_direct).map some after more text rest h
      · rw [if_neg hstring] at h
        cases h

theorem readName_asksForMore (id : Int32) (missing mismatch : Defect) :
    AsksForMore (readName id missing mismatch) := by
  refine readNullableText_asksForMore.bind fun text => ?_
  split
  · exact .throw _
  split
  · exact .pure _
  · exact .throw _

theorem readField_asksForMore : AsksForMore (readField decode) :=
  (AsksForMore.of_direct (.word Int32)).bind fun _ => (readName_asksForMore _ _ _).bind fun _ =>
    decode_asksForMore.bind fun _ => .pure _

theorem readName_of_other {name : String} {id : Int32} {missing mismatch : Defect}
    (hid : nameId name ≠ id) (h : encodeNullableText (some name) = .ok tag) (rest : Bytes) :
    readName id missing mismatch (tag ++ rest) = .error (.malformed mismatch) rest := by
  rw [readName, bind_apply_ok (encodeNullableText_takes h rest)]
  simp only [if_neg hid]
  rfl

theorem encodeNullableText_eq_ok {s : String} (h : encodeNullableText (some s) = .ok tag) :
    ∃ m, tag = TypeCode.string.toByte :: (LittleEndian.encode 4 m ++ Utf8.encode s) := by
  obtain ⟨text, htext, h⟩ := Except.bind_eq_ok h
  obtain ⟨length, hlength, htext⟩ := Except.bind_eq_ok htext
  obtain ⟨-, rfl⟩ := encodeLength_eq_ok hlength
  cases htext
  cases h
  exact ⟨_, rfl⟩

/-- What is not tagged as a text is no name, null included. -/
theorem readName_of_tag {id : Int32} {missing mismatch : Defect} {b : UInt8}
    (hb : b ≠ TypeCode.string.toByte) (rest : Bytes) :
    Refuses (readName id missing mismatch) (b :: rest) := by
  cases hread : readName id missing mismatch (b :: rest) with
  | error e left => exact ⟨e, left, hread⟩
  | ok name left =>
    obtain ⟨tag, hbuffer, -, htag⟩ := readName_yields _ _ _ _ _ _ hread
    obtain ⟨m, rfl⟩ := encodeNullableText_eq_ok htag
    exact absurd (List.head_eq_of_cons_eq hbuffer) hb

/-- The check of the hash, and what follows it. -/
theorem readRecordContent_counted (htag : encodeNullableText (some typeName) = .ok tag)
    {counted rest : Bytes} {m : Nat} (hcount : length counted = .ok m rest) :
    readRecordContent decode (nameId typeName) hash (tag ++ counted) =
      if hashBytes rest ≠ hash then .error (.malformed .hashMismatch) rest
      else (do
        let fields ← replicate m (readField decode)
        if (← available) ≠ 0 then throw (.malformed .recordTrailingBytes)
        return ⟨typeName, fields⟩ : Reader ComplexObject) rest := by
  rw [readRecordContent, bind_apply_ok (readName_takes rfl htag _), bind_apply_ok hcount]
  change (if hashBytes rest ≠ hash then throw _ >>= _ else _ : Reader ComplexObject) rest = _
  split <;> rfl

theorem readRecordContent_of_typeId (htag : encodeNullableText (some typeName) = .ok tag)
    (hid : nameId typeName ≠ typeId) (rest : Bytes) :
    Refuses (readRecordContent decode typeId hash) (tag ++ rest) :=
  Refuses.bind ⟨_, _, readName_of_other hid htag rest⟩

theorem readRecordContent_of_hash (htag : encodeNullableText (some typeName) = .ok tag)
    (hn : n ≤ greatestCount) (hhash : hashBytes octets ≠ hash) :
    readRecordContent decode (nameId typeName) hash
        (tag ++ (LittleEndian.encode 4 n ++ octets)) =
      .error (.malformed .hashMismatch) octets := by
  rw [readRecordContent_counted htag (takes_count hn octets), if_pos hhash]

/-- Whether or not the hash is right, the fields must be all that there is. -/
theorem readRecordContent_refuses (htag : encodeNullableText (some typeName) = .ok tag)
    {counted rest : Bytes} {m : Nat} (hcount : length counted = .ok m rest)
    (hfields : ∀ fields, replicate m (readField decode) rest ≠ .ok fields []) :
    Refuses (readRecordContent decode (nameId typeName) hash) (tag ++ counted) := by
  rw [Refuses, readRecordContent_counted htag hcount]
  split
  · exact ⟨_, _, rfl⟩
  cases hread : replicate m (readField decode) rest with
  | error e left => exact ⟨e, left, bind_apply_error hread⟩
  | ok fields left =>
    refine ⟨.malformed .recordTrailingBytes, left, ?_⟩
    rw [bind_apply_ok hread]
    cases left with
    | nil => exact absurd hread (hfields fields)
    | cons b left => rfl

theorem readRecordContent_of_count (htag : encodeNullableText (some typeName) = .ok tag)
    {counted : Bytes} {m : Nat} {fields : List (String × WireValue)}
    (hfields : replicate n (readField decode) octets = .ok fields [])
    (hcount : length counted = .ok m octets) (hm : m ≠ n) :
    Refuses (readRecordContent decode (nameId typeName) hash) (tag ++ counted) := by
  have hnil : Refuses (readField decode) [] := ⟨.truncated 4 0, [], rfl⟩
  exact readRecordContent_refuses htag hcount fun found hfound =>
    hm (replicate_unique hnil hfields hfound)

theorem readRecordContent_of_longer (htag : encodeNullableText (some typeName) = .ok tag)
    {fields : List (String × WireValue)} (hn : n ≤ greatestCount)
    (hfields : Takes (replicate n (readField decode)) octets fields)
    {more : Bytes} (hmore : more ≠ []) :
    Refuses (readRecordContent decode (nameId typeName) hash)
      (tag ++ (LittleEndian.encode 4 n ++ octets) ++ more) := by
  rw [List.append_assoc, List.append_assoc]
  refine readRecordContent_refuses htag (takes_count hn _) fun found hfound => hmore ?_
  cases (hfields more).symm.trans hfound
  rfl

/-- Of less than the content, the name, the count or the fields do not come to their end. -/
theorem readRecordContent_of_shorter (htag : encodeNullableText (some typeName) = .ok tag)
    {fields : List (String × WireValue)} (hn : n ≤ greatestCount)
    (hfields : replicate n (readField decode) octets = .ok fields [])
    {part more : Bytes} (hpart : part ++ more = tag ++ (LittleEndian.encode 4 n ++ octets))
    (hmore : more ≠ []) :
    Refuses (readRecordContent decode (nameId typeName) hash) part := by
  have hname : readName (nameId typeName) .recordWithoutTypeName .typeIdMismatch
      (tag ++ (LittleEndian.encode 4 n ++ octets)) =
        .ok typeName (LittleEndian.encode 4 n ++ octets) := readName_takes rfl htag _
  rw [← hpart] at hname
  rcases readName_asksForMore _ _ _ _ _ _ _ hname with ⟨counted, -, hcounted⟩ | hout
  swap
  · exact hout.bind.refuses
  rw [hcounted, ← List.append_assoc] at hpart
  obtain rfl := List.append_cancel_right hpart
  have hcount := takes_count hn octets
  rw [hcounted] at hcount
  rcases AsksForMore.of_direct .length _ _ _ _ hcount with ⟨left, hleft, hoctets⟩ | hout
  swap
  · rw [Refuses, readRecordContent, bind_apply_ok (readName_takes rfl htag _)]
    exact hout.bind.refuses
  refine readRecordContent_refuses htag hleft fun found hfound => ?_
  have hless : left ≠ octets := by
    rintro rfl
    exact hmore (List.append_right_eq_self.mp hoctets.symm)
  obtain ⟨_, _, _, hout, -⟩ := (readField_asksForMore.replicate n).ranOut hfields
    ⟨more, hoctets.symm⟩ hless
  cases hout.symm.trans hfound

/-- A damaged length cuts the content off, or it takes something in that does not belong to it. -/
theorem readRecordContent_of_length (htag : encodeNullableText (some typeName) = .ok tag)
    {fields : List (String × WireValue)} (hn : n ≤ greatestCount)
    (hfields : Takes (replicate n (readField decode)) octets fields) {content : Bytes}
    (hcontent : content = tag ++ (LittleEndian.encode 4 n ++ octets)) {size : Nat}
    (hsize : size ≠ content.length) (rest : Bytes) :
    Refuses (within size (readRecordContent decode (nameId typeName) hash)) (content ++ rest) := by
  subst hcontent
  refine refuses_within fun part after hparts hlength => ?_
  rcases List.append_eq_append_iff.mp hparts with ⟨more, rfl, -⟩ | ⟨more, hpart, -⟩
  · refine readRecordContent_of_longer htag hn hfields ?_
    rintro rfl
    exact hsize (by rw [← hlength, List.append_nil])
  · refine readRecordContent_of_shorter htag hn hfields.exactly hpart.symm ?_
    rintro rfl
    exact hsize (by rw [← hlength, hpart, List.append_nil])

/-- In what follows the header, a damaged tag, count or field is found. -/
theorem readRecordContent_of_altered (htag : encodeNullableText (some typeName) = .ok tag)
    {fields : List (String × WireValue)} (hn : n ≤ greatestCount)
    (hfields : Takes (replicate n (readField decode)) octets fields) {content : Bytes}
    (h : Altered i (tag ++ (LittleEndian.encode 4 n ++ octets)) content)
    (hguarded : i < 1 ∨ tag.length ≤ i) :
    Refuses (readRecordContent decode (nameId typeName) (hashBytes octets)) content := by
  rcases h.of_append with ⟨tag', htag', rfl⟩ | ⟨j, counted, -, hcounted, rfl⟩
  · obtain ⟨m, rfl⟩ := encodeNullableText_eq_ok htag
    obtain ⟨hi, b, hb, rfl⟩ := htag'
    obtain rfl : i = 0 := by omega
    exact (readName_of_tag hb _).bind
  rcases hcounted.of_append with ⟨count, hcount, rfl⟩ | ⟨k, octets', -, hoctets, rfl⟩
  · rcases length_of_altered hcount octets with ⟨e, left, herror⟩ | ⟨m, hm, hlength⟩
    · rw [Refuses, readRecordContent, bind_apply_ok (readName_takes rfl htag _)]
      exact Refuses.bind ⟨e, left, herror⟩
    · exact readRecordContent_of_count htag hfields.exactly hlength hm
  · exact ⟨_, _, readRecordContent_of_hash htag hn (hashBytes_ne_of_altered hoctets)⟩

end Content

/-! ## The header and the whole -/

section Header

variable {flags : UInt16} {typeId hash : Int32} {sized after : Bytes} {total : Nat}

theorem readRecord_of_version {version : UInt8} (h : version ≠ recordVersion) (rest : Bytes) :
    Refuses (readRecord decode) ([version] ++ rest) := by
  refine ⟨.malformed .recordVersion, rest, ?_⟩
  rw [readRecord, bind_apply_ok (takes_octet version rest), if_pos h]
  rfl

theorem readRecord_header (flags : UInt16) (typeId hash : Int32) (sized : Bytes) :
    readRecord decode ([recordVersion] ++ (Word.encode flags ++ (Word.encode typeId ++
        (Word.encode hash ++ sized)))) =
      (do
        let total ← length
        if total < recordHeaderLength then throw (.malformed .recordLength)
        within (total - recordHeaderLength) (readRecordContent decode typeId hash) :
          Reader ComplexObject) sized := by
  rw [readRecord, bind_apply_ok (takes_octet recordVersion _)]
  simp only [ne_eq, not_true, if_false]
  rw [bind_apply_ok (takes_word flags _), bind_apply_ok (takes_word typeId _),
    bind_apply_ok (takes_word hash _)]

theorem readRecord_sized (hlength : length sized = .ok total after)
    (htotal : recordHeaderLength ≤ total) :
    readRecord decode ([recordVersion] ++ (Word.encode flags ++ (Word.encode typeId ++
        (Word.encode hash ++ sized)))) =
      within (total - recordHeaderLength) (readRecordContent decode typeId hash) after := by
  rw [readRecord_header, bind_apply_ok hlength, if_neg (by omega)]

end Header

/-- The octets of a record, part by part. -/
theorem encodeBody_parts {object : ComplexObject} {octets : Bytes}
    (h : (complex object).encodeBody = .ok octets) :
    ∃ tag fields content,
      encodeNullableText (some object.typeName) = .ok tag ∧
      object.fields.length ≤ greatestCount ∧
      Takes (replicate object.fields.length (readField decode)) fields object.fields ∧
      content = tag ++ (LittleEndian.encode 4 object.fields.length ++ fields) ∧
      recordHeaderLength + content.length ≤ greatestCount ∧
      octets = [recordVersion] ++ (Word.encode recordFlags ++
        (Word.encode (nameId object.typeName) ++ (Word.encode (hashBytes fields) ++
          (LittleEndian.encode 4 (recordHeaderLength + content.length) ++ content)))) := by
  obtain ⟨typeName, fields⟩ := object
  obtain ⟨tag, htag, h⟩ := Except.bind_eq_ok h
  obtain ⟨count, hcount, h⟩ := Except.bind_eq_ok h
  obtain ⟨octets, hoctets, h⟩ := Except.bind_eq_ok h
  obtain ⟨size, hsize, h⟩ := Except.bind_eq_ok h
  obtain ⟨hn, rfl⟩ := encodeLength_eq_ok hcount
  obtain ⟨hle, rfl⟩ := encodeLength_eq_ok hsize
  cases h
  have htotal : recordHeaderLength + (tag ++ (LittleEndian.encode 4 fields.length ++
      octets)).length = recordHeaderLength + tag.length +
        (LittleEndian.encode 4 fields.length).length + octets.length := by
    rw [List.length_append, List.length_append]
    omega
  refine ⟨tag, octets, _, htag, hn, encodeFields_takes fields hoctets, rfl, ?_, ?_⟩
  · rwa [htotal]
  · rw [htotal]
    simp only [List.append_assoc, List.cons_append, List.nil_append]

/-- Where the count of the fields starts in a record. -/
def countPlace (typeName : String) : Nat :=
  recordHeaderLength + 5 + (Utf8.encode typeName).length

/-- Where the first field starts in a record. -/
def fieldsPlace (typeName : String) : Nat :=
  countPlace typeName + 4

/-- The places of a record that are neither flags nor length or text of the type name. -/
def Guarded (typeName : String) (place : Nat) : Prop :=
  place < 1 ∨ 3 ≤ place ∧ place ≤ recordHeaderLength ∨ countPlace typeName ≤ place

theorem readRecord_of_altered {object : ComplexObject} {octets damaged : Bytes}
    (h : (complex object).encodeBody = .ok octets) {place : Nat}
    (hdamaged : Altered place octets damaged) (hguarded : Guarded object.typeName place)
    (rest : Bytes) : Refuses (readRecord decode) (damaged ++ rest) := by
  obtain ⟨tag, fields, content, htag, hn, hfields, hcontent, hsize, rfl⟩ := encodeBody_parts h
  have htaglength : tag.length = 5 + (Utf8.encode object.typeName).length := by
    obtain ⟨m, rfl⟩ := encodeNullableText_eq_ok htag
    simp
    omega
  have hless := recordHeaderLength.le_add_right content.length
  have hcut : recordHeaderLength + content.length - recordHeaderLength = content.length := by omega
  rw [Guarded, countPlace, recordHeaderLength] at hguarded
  -- the change is in the version, the flags, the type id, the hash, the length or what follows
  rcases hdamaged.of_append with ⟨_, ⟨hi, version, hversion, rfl⟩, rfl⟩ | ⟨i, _, hi, hflagged, rfl⟩
  · obtain rfl : place = 0 := by simpa using hi
    exact readRecord_of_version hversion _
  rcases hflagged.of_append with ⟨_, hflags, rfl⟩ | ⟨j, _, hj, htyped, rfl⟩
  · have hi' : i < 2 := hflags.1
    simp only [List.length_cons, List.length_nil] at hi
    omega
  rcases htyped.of_append with ⟨_, htypeId, rfl⟩ | ⟨k, _, hk, hhashed, rfl⟩
  · obtain ⟨typeId, hne, rfl⟩ := htypeId.of_word
    simp only [List.append_assoc]
    rw [Refuses, readRecord_sized (takes_count hsize _) hless, hcut]
    refine Refuses.within ?_ rest
    subst hcontent
    exact readRecordContent_of_typeId htag hne.symm _
  rcases hhashed.of_append with ⟨_, hhash, rfl⟩ | ⟨l, _, hl, hsized, rfl⟩
  · obtain ⟨hash, hne, rfl⟩ := hhash.of_word
    simp only [List.append_assoc]
    rw [Refuses, readRecord_sized (takes_count hsize _) hless, hcut]
    refine Refuses.within ?_ rest
    subst hcontent
    exact ⟨_, _, readRecordContent_of_hash htag hn hne.symm⟩
  simp only [List.append_assoc]
  rcases hsized.of_append with ⟨_, htotal, rfl⟩ | ⟨m, _, hm, hfollowing, rfl⟩
  · rw [List.append_assoc, Refuses, readRecord_header]
    rcases length_of_altered htotal (content ++ rest) with ⟨e, left, herror⟩ | ⟨total, hne, htotal⟩
    · exact Refuses.bind ⟨e, left, herror⟩
    rw [bind_apply_ok htotal]
    split
    · exact ⟨_, _, rfl⟩
    · exact readRecordContent_of_length htag hn hfields hcontent (by omega) rest
  · rw [List.append_assoc, Refuses, readRecord_sized (takes_count hsize _) hless, hcut,
      ← hfollowing.length_eq]
    refine Refuses.within ?_ rest
    subst hcontent
    refine readRecordContent_of_altered htag hn hfields hfollowing ?_
    have hi : place = 1 + i := hi
    have hj : i = 2 + j := hj
    have hk : j = 4 + k := hk
    have hl : k = 4 + l := hl
    have hm : l = 4 + m := hm
    omega

/-- Damage to the fields leaves all that is compared before the hash as it was. -/
theorem readRecord_of_altered_fields {object : ComplexObject} {octets damaged : Bytes}
    (h : (complex object).encodeBody = .ok octets) {place : Nat}
    (hdamaged : Altered place octets damaged) (hplace : fieldsPlace object.typeName ≤ place)
    (rest : Bytes) :
    readRecord decode (damaged ++ rest) = .error (.malformed .hashMismatch) rest := by
  obtain ⟨tag, fields, content, htag, hn, hfields, rfl, hsize, rfl⟩ := encodeBody_parts h
  simp only [← List.append_assoc] at hdamaged
  rcases hdamaged.of_append with ⟨front, hfront, -⟩ | ⟨i, fields', -, hfields', rfl⟩
  · have hinside := hfront.1
    obtain ⟨m, rfl⟩ := encodeNullableText_eq_ok htag
    simp only [List.length_append, List.length_cons, List.length_nil, Word.length_encode,
      LittleEndian.length_encode, Word.width] at hinside
    rw [fieldsPlace, countPlace, recordHeaderLength] at hplace
    omega
  have hless := recordHeaderLength.le_add_right
    (tag ++ (LittleEndian.encode 4 object.fields.length ++ fields)).length
  have hlength : recordHeaderLength + (tag ++ (LittleEndian.encode 4 object.fields.length ++
      fields)).length - recordHeaderLength =
      (tag ++ (LittleEndian.encode 4 object.fields.length ++ fields')).length := by
    simp only [List.length_append, hfields'.length_eq]
    omega
  simp only [List.append_assoc] at hsize ⊢
  rw [readRecord_sized (takes_count hsize _) hless, hlength]
  have hcontent := readRecordContent_of_hash htag hn (hashBytes_ne_of_altered hfields')
  simpa only [List.append_assoc] using within_of_error hcontent rest

/-- **A record with one octet changed is refused**, whatever follows it, unless the octet is one of
the flags or belongs to the length or the text of the type name; and if it belongs to the fields, at
any depth, it is the hash that is found to be wrong. -/
theorem decodeBody_of_damaged {object : ComplexObject} {octets : Bytes}
    (h : (complex object).encodeBody = .ok octets) {place : Nat} (hplace : place < octets.length)
    {octet : UInt8} (hother : octet ≠ octets[place]) (rest : Bytes) :
    (Guarded object.typeName place →
      ∃ e left, decodeBody .complex (octets.set place octet ++ rest) = .error e left) ∧
    (fieldsPlace object.typeName ≤ place →
      decodeBody .complex (octets.set place octet ++ rest) =
        .error (.malformed .hashMismatch) rest) := by
  have hdamaged : Altered place octets (octets.set place octet) := ⟨hplace, octet, hother, rfl⟩
  rw [decodeBody_eq, readBody]
  constructor
  · exact fun hguarded => (readRecord_of_altered h hdamaged hguarded rest).bind
  · exact fun hfields => bind_apply_error (readRecord_of_altered_fields h hdamaged hfields rest)

/-- The length of `nestedRecord` is made one greater, so that it covers an octet that follows; and
the last digit of the float in the object inside it is changed. -/
theorem decodeBody_of_damaged_nestedRecord :
    (∃ e left, decodeBody .complex (nestedRecordOctets.tail.set 11 105 ++ [0]) = .error e left) ∧
      decodeBody .complex (nestedRecordOctets.tail.set 74 2 ++ [0]) =
        .error (.malformed .hashMismatch) [0] := by
  have hencode : nestedRecord.encodeBody = .ok nestedRecordOctets.tail := by cbv
  have hplace : fieldsPlace "Pe" ≤ 74 := by cbv
  exact ⟨(decodeBody_of_damaged hencode (by decide) (by decide) [0]).1 (.inr (.inl (by decide))),
    (decodeBody_of_damaged hencode (by decide) (by decide) [0]).2 hplace⟩

end WireValue

end ThinClient
