import ThinClient.Proofs.Value.Expecting

/-!
# What failed readers leave

A reader that fails says what is left of its buffer, and one that has run out of octets also says
how many there were. This module shows that both go together, wherever a reader stops.

* `Reader.StopsShort r buffer`: if the reader runs out of octets, it leaves just those that were too
  few, and all in front of them has been read for good. Readers that are made of reads stop so
  (`StopsShort.of_direct`), as the elements of an array do that are asked for all together.
* `RecordAhead octets rest`: the octets hold the header of a record and all of the content that it
  announces. From there on the content is read in octets of its own, and whatever is wrong with it
  the record as a whole has been taken.
* `readers_accountFor`: **every reader of values leaves an end of its buffer when it fails**. If it
  fails for want of octets, and not in the content of a record, these are the octets that it counted,
  and it asked for more; if it fails in the content of a record, they are what follows the record.
-/

namespace ThinClient

namespace Reader

variable {α β : Type} {r : Reader α} {f : α → Reader β} {buffer : Bytes}

/-! ## Running out of octets -/

/-- If the reader runs out of octets, it leaves those that were too few: as many as it says, and
fewer than it asked for. What it has read before stays read, for with more octets behind these, and
still too few, it comes to the same place and asks for as many. -/
def StopsShort (r : Reader α) (buffer : Bytes) : Prop :=
  ∀ requested available left, r buffer = .error (.truncated requested available) left →
    left.length = available ∧ available < requested ∧
      ∀ more, available + more.length < requested →
        r (buffer ++ more) = .error (.truncated requested (available + more.length)) (left ++ more)

namespace StopsShort

/-- Octets that are too few are left. -/
theorem of_few {n : Nat} (hr : ∀ octets, octets.length < n →
    r octets = .error (.truncated n octets.length) octets) (hn : buffer.length < n) :
    StopsShort r buffer := by
  intro requested available left h
  cases (hr buffer hn).symm.trans h
  refine ⟨rfl, hn, fun more hmore => ?_⟩
  rw [← List.length_append] at hmore ⊢
  exact hr _ hmore

theorem of_ok {a : α} {rest : Bytes} (h : r buffer = .ok a rest) : StopsShort r buffer := by
  intro requested available left herror
  cases h.symm.trans herror

theorem of_other {e : DecodeError} {left : Bytes} (h : r buffer = .error e left)
    (he : e.isShortage = false) : StopsShort r buffer := by
  intro requested available left' herror
  cases h.symm.trans herror
  cases he

theorem take (n : Nat) (buffer : Bytes) : StopsShort (take n) buffer := by
  by_cases hn : buffer.length < n
  · exact of_few (fun octets h => by rw [Reader.take, if_pos h]) hn
  · exact of_ok (by rw [Reader.take, if_neg hn])

theorem require (n : Nat) (buffer : Bytes) : StopsShort (require n) buffer := by
  by_cases hn : buffer.length < n
  · exact of_few (fun octets h => by rw [Reader.require, if_pos h]) hn
  · exact of_ok (by rw [Reader.require, if_neg hn])

/-- What is split off has to be there before it is read. -/
theorem within {n : Nat} (hn : buffer.length < n) : StopsShort (within n r) buffer := by
  refine of_few (fun octets h => ?_) hn
  have htake : Reader.take n octets = .error (.truncated n octets.length) octets := by
    rw [Reader.take, if_pos h]
  rw [Reader.within, htake]

theorem bind (hr : StopsShort r buffer) (hextends : Extends r)
    (hf : ∀ a rest, r buffer = .ok a rest → StopsShort (f a) rest) :
    StopsShort (r >>= f) buffer := by
  intro requested available left h
  cases hread : r buffer with
  | ok a rest =>
    rw [bind_apply_ok hread] at h
    obtain ⟨hlength, hless, hmore⟩ := hf a rest hread _ _ _ h
    refine ⟨hlength, hless, fun more hfew => ?_⟩
    rw [bind_apply_ok (hextends _ _ _ hread more)]
    exact hmore more hfew
  | error e rest =>
    rw [bind_apply_error hread] at h
    cases h
    obtain ⟨hlength, hless, hmore⟩ := hr _ _ _ hread
    exact ⟨hlength, hless, fun more hfew => bind_apply_error (hmore more hfew)⟩

theorem of_direct (hr : Direct r) (buffer : Bytes) : StopsShort r buffer := by
  induction hr generalizing buffer with
  | pure a => exact of_ok rfl
  | fail he => exact of_other rfl he
  | take n => exact take n buffer
  | require n => exact require n buffer
  | bind hr _ ihr ihf => exact (ihr buffer).bind (.of_direct hr) fun a rest _ => ihf a rest

theorem map (g : α → β) (hr : StopsShort r buffer) (hextends : Extends r) :
    StopsShort (g <$> r) buffer :=
  hr.bind hextends fun _ _ _ => of_ok rfl

end StopsShort

/-! ## Failing in general -/

/-- The reader accounts for what it leaves when it fails. It is an end of the buffer, and it is the
octets that were too few, if the reader has run out of them. The exception are failures in something
that is taken as a whole before it is looked at: `inside buffer e rest` says that this fails with `e`
and that `rest` follows it, and then so does the reader. -/
structure AccountsFor (r : Reader α) (inside : Bytes → DecodeError → Bytes → Prop) : Prop where
  suffix : ∀ buffer e left, r buffer = .error e left → left <:+ buffer
  short : ∀ buffer, (∀ e rest, ¬ inside buffer e rest) → StopsShort r buffer
  behind : ∀ buffer e rest, inside buffer e rest → r buffer = .error e rest

namespace AccountsFor

variable {inside inside' : Bytes → DecodeError → Bytes → Prop}

theorem of_direct (hr : Direct r) (hinside : ∀ buffer e rest, ¬ inside buffer e rest) :
    AccountsFor r inside where
  suffix _ _ _ h := (Forward.of_direct hr).suffix_of_error h
  short buffer _ := .of_direct hr buffer
  behind buffer e rest h := absurd h (hinside buffer e rest)

theorem congr (hr : AccountsFor r inside)
    (h : ∀ buffer e rest, inside buffer e rest ↔ inside' buffer e rest) :
    AccountsFor r inside' where
  suffix := hr.suffix
  short buffer hnot := hr.short buffer fun e rest hin => hnot e rest ((h buffer e rest).mp hin)
  behind buffer e rest hin := hr.behind buffer e rest ((h buffer e rest).mpr hin)

theorem map (g : α → β) (hr : AccountsFor r inside) (hextends : Extends r) :
    AccountsFor (g <$> r) inside where
  suffix buffer e left h := hr.suffix buffer e left (error_of_map h)
  short buffer hnot := (hr.short buffer hnot).map g hextends
  behind buffer e rest hin := map_apply_error g (hr.behind buffer e rest hin)

end AccountsFor

end Reader

namespace WireValue

open Reader

variable {octets rest : Bytes} {e : DecodeError}

/-! ## Records -/

/-- The octets start with the header of a record and all of the content that it announces, and it is
the content that cannot be read. -/
def ContentFails (octets : Bytes) (e : DecodeError) (rest : Bytes) : Prop :=
  ∃ (flags : UInt16) (typeId hash : Int32) (content left : Bytes),
    recordHeaderLength + content.length ≤ greatestCount ∧
      octets = [recordVersion] ++ (Word.encode flags ++ (Word.encode typeId ++ (Word.encode hash ++
        LittleEndian.encode 4 (recordHeaderLength + content.length)))) ++ (content ++ rest) ∧
      readRecordContent decode typeId hash content = .error e left

theorem readRecordHeader_takes (flags : UInt16) (typeId hash : Int32) {size : Nat}
    (hsize : recordHeaderLength + size ≤ greatestCount) :
    Takes readRecordHeader
      ([recordVersion] ++ (Word.encode flags ++ (Word.encode typeId ++ (Word.encode hash ++
        LittleEndian.encode 4 (recordHeaderLength + size))))) ⟨typeId, hash, size⟩ := by
  refine .bind (takes_octet recordVersion) (.check (by simp) (.bind (takes_word flags) ?_))
  refine .bind (takes_word typeId) (.bind (takes_word hash) ?_)
  refine .bind_nil (takes_count hsize) (.check (by omega) ?_)
  rw [Nat.add_sub_cancel_left]
  exact .pure _

theorem readRecordHeader_yields :
    Yields readRecordHeader fun p header =>
      recordHeaderLength + header.size ≤ greatestCount ∧
        ∃ flags : UInt16, p = [recordVersion] ++ (Word.encode flags ++ (Word.encode header.typeId ++
          (Word.encode header.hash ++ LittleEndian.encode 4 (recordHeaderLength + header.size)))) := by
  refine (Yields.word UInt8).bind fun p version hp => .check fun hversion => ?_
  refine (Yields.word UInt16).bind fun q flags hq => ?_
  refine (Yields.word Int32).bind fun t typeId ht => ?_
  refine (Yields.word Int32).bind fun u hash hu => ?_
  refine Yields.length.bind fun w total hw => .check fun hless => .pure ?_
  obtain ⟨rfl, hle⟩ := hw
  have htotal : recordHeaderLength + (total - recordHeaderLength) = total := by omega
  rw [htotal]
  refine ⟨hle, flags, ?_⟩
  rw [hp, hq, ht, hu, encode_octet, Decidable.not_not.mp hversion, List.append_nil]

/-- A record fails in front of its content, or because there is too little of it, or all of it is
there and has been taken. -/
theorem readRecord_accountsFor : AccountsFor (readRecord decode) ContentFails where
  suffix _ _ _ h := (readRecord_forward decode).suffix_of_error h
  short octets hnot := by
    rw [readRecord_eq]
    refine (StopsShort.of_direct readRecordHeader_direct octets).bind
      (.of_direct readRecordHeader_direct) fun header after hheader => ?_
    by_cases hfew : after.length < header.size
    · exact .within hfew
    obtain ⟨p, rfl, hsize, flags, rfl⟩ := readRecordHeader_yields _ _ _ hheader
    have hcontent : (after.take header.size).length = header.size :=
      List.length_take_of_le (by omega)
    have hparts : after = after.take header.size ++ after.drop header.size :=
      (List.take_append_drop _ _).symm
    cases hread : readRecordContent decode header.typeId header.hash (after.take header.size) with
    | ok object left =>
      have hwithin := takes_within hread (after.drop header.size)
      rw [hcontent, ← hparts] at hwithin
      exact .of_ok hwithin
    | error e left =>
      refine absurd ⟨flags, header.typeId, header.hash, after.take header.size, left, ?_, ?_, hread⟩
        (hnot e (after.drop header.size))
      · rwa [hcontent]
      · rw [hcontent, ← hparts]
  behind octets e rest hin := by
    obtain ⟨flags, typeId, hash, content, left, hsize, rfl, hread⟩ := hin
    rw [readRecord_eq, bind_apply_ok (readRecordHeader_takes flags typeId hash hsize _)]
    exact within_of_error hread rest

theorem decodeBody_accountsFor (code : TypeCode) :
    AccountsFor (decodeBody code) fun octets e rest =>
      code = .complex ∧ ContentFails octets e rest := by
  rw [decodeBody_eq]
  by_cases hcode : code = .complex
  · subst hcode
    refine (readRecord_accountsFor.map _ (readRecord_extends decode)).congr ?_
    simp
  · exact .of_direct (readBody_direct decode hcode) fun _ _ _ h => hcode h.1

/-! ## The type code in front -/

theorem decode_accountsFor :
    AccountsFor decode fun octets e rest =>
      ∃ body, octets = TypeCode.complex.toByte :: body ∧ ContentFails body e rest where
  suffix _ _ _ h := decode_forward.suffix_of_error h
  short octets hnot := by
    rw [decode_eq]
    refine (StopsShort.of_direct readTypeCode_direct octets).bind
      (.of_direct readTypeCode_direct) fun code body hcode => ?_
    refine (decodeBody_accountsFor code).short body ?_
    rintro e rest ⟨rfl, hin⟩
    exact hnot e rest ⟨body, eq_cons_of_readTypeCode hcode, hin⟩
  behind octets e rest hin := by
    obtain ⟨body, rfl, hin⟩ := hin
    rw [decode_of_code]
    exact (decodeBody_accountsFor .complex).behind body e rest ⟨rfl, hin⟩

section Expecting

variable {α : Type} {body : Reader α} {code : TypeCode}
  {inside : Bytes → DecodeError → Bytes → Prop}

/-- A buffer that starts with nothing that is wanted is empty, or it is not short of octets. -/
theorem NotFound.stopsShort (h : NotFound code octets e) :
    StopsShort (expecting code body) octets := by
  cases h with
  | nothing =>
    refine .of_few (n := 1) (fun octets hfew => ?_) Nat.one_pos
    obtain rfl : octets = [] := List.length_eq_zero_iff.mp (by omega)
    rfl
  | unknown rest h => exact .of_other (NotFound.expecting_eq (.unknown rest h) body) rfl
  | other rest hne hnull =>
    exact .of_other (NotFound.expecting_eq (.other rest hne hnull) body) rfl

theorem expecting_accountsFor (code : TypeCode) (hbody : AccountsFor body inside)
    (hextends : Extends body) (hcode : ∀ after e rest, inside after e rest → code ≠ .null) :
    AccountsFor (expecting code body) fun octets e rest =>
      ∃ after, octets = code.toByte :: after ∧ inside after e rest where
  suffix octets e left h := by
    rcases front_cases code octets with ⟨e', hfront⟩ | ⟨after, rfl⟩ | ⟨after, hnull, rfl⟩
    · cases (hfront.expecting_eq body).symm.trans h
      exact List.suffix_rfl
    · rw [expecting_of_null] at h
      cases h
    · rw [expecting_of_code hnull] at h
      exact (hbody.suffix _ _ _ (error_of_map h)).trans (List.suffix_cons _ _)
  short octets hnot := by
    rcases front_cases code octets with ⟨e', hfront⟩ | ⟨after, rfl⟩ | ⟨after, hnull, rfl⟩
    · exact hfront.stopsShort
    · exact .of_ok (expecting_of_null _ _ _)
    · have hafter := hbody.short after fun e rest hin => hnot e rest ⟨after, rfl, hin⟩
      intro requested available left h
      rw [expecting_of_code hnull] at h
      obtain ⟨hlength, hless, hmore⟩ := hafter.map some hextends _ _ _ h
      refine ⟨hlength, hless, fun more hfew => ?_⟩
      rw [List.cons_append, expecting_of_code hnull]
      exact hmore more hfew
  behind octets e rest hin := by
    obtain ⟨after, rfl, hin⟩ := hin
    rw [expecting_of_code (hcode after e rest hin)]
    exact map_apply_error some (hbody.behind after e rest hin)

end Expecting

theorem decodeBody_extends (code : TypeCode) : Extends (decodeBody code) := by
  rw [decodeBody_eq]
  exact readBody_extends decode code

/-- **Failed readers account for what they leave.** A reader that fails in the content of a record
leaves what follows the record, and it does so only where the octets say that a record is there and
hold all of it. Every other failure leaves an end of the buffer, and if it is for want of octets,
these are as many as it counted, and fewer than were asked for: the read that failed has taken
nothing, and all reads before it were for good. -/
theorem readers_accountFor :
    (AccountsFor decode fun octets e rest =>
      ∃ body, octets = TypeCode.complex.toByte :: body ∧ ContentFails body e rest) ∧
    (∀ code, AccountsFor (decodeBody code) fun octets e rest =>
      code = .complex ∧ ContentFails octets e rest) ∧
    (∀ expected, AccountsFor (decodeExpected expected) fun octets e rest =>
      expected = .complex ∧
        ∃ body, octets = TypeCode.complex.toByte :: body ∧ ContentFails body e rest) ∧
    AccountsFor readNullableText fun _ _ _ => False := by
  refine ⟨decode_accountsFor, decodeBody_accountsFor, fun expected => ?_, ?_⟩
  · refine (expecting_accountsFor expected (decodeBody_accountsFor expected)
      (decodeBody_extends expected) ?_).congr ?_
    · rintro after e rest ⟨rfl, -⟩
      decide
    · intro octets e rest
      constructor
      · rintro ⟨body, rfl, rfl, hin⟩
        exact ⟨rfl, body, rfl, hin⟩
      · rintro ⟨rfl, body, rfl, hin⟩
        exact ⟨body, rfl, rfl, hin⟩
  · have htext : AccountsFor readText fun _ _ _ => False :=
      .of_direct readText_direct fun _ _ _ => False.elim
    refine (expecting_accountsFor .string htext (.of_direct readText_direct)
      fun _ _ _ => False.elim).congr ?_
    simp

/-- Two texts are announced, and of the second one a letter has come. -/
def cutTexts : Bytes :=
  [20, 2, 0, 0, 0, 9, 1, 0, 0, 0, 97, 9, 4, 0, 0, 0, 98]

/-- A record, before an octet that is not its own, that ends in the middle of its type name. -/
def cutRecord : Bytes :=
  [103, 1, 3, 0, 0, 0, 0, 0, 0, 0, 0, 0, 21, 0, 0, 0, 9, 9, 0, 0, 0, 97, 7]

/-- Two letters more are still too few for the text, and are left with the first one. The text in the
record finds one letter as well, and it is not this one that is left. -/
theorem readers_accountFor_cut :
    decode cutTexts = .error (.truncated 4 1) [98] ∧
      decode (cutTexts ++ [99, 100]) = .error (.truncated 4 3) [98, 99, 100] ∧
      decode cutRecord = .error (.truncated 9 1) [7] := by
  obtain ⟨hdecode, -⟩ := readers_accountFor
  have htexts : decode cutTexts = .error (.truncated 4 1) [98] := rfl
  have hshort : StopsShort decode cutTexts := by
    refine hdecode.short cutTexts ?_
    rintro e rest ⟨body, hbody, -⟩
    exact absurd (List.head_eq_of_cons_eq hbody) (by decide)
  obtain ⟨-, -, hmore⟩ := hshort 4 1 [98] htexts
  refine ⟨htexts, hmore [99, 100] (by decide), hdecode.behind cutRecord _ _ ⟨_, rfl, ?_⟩⟩
  exact ⟨3, 0, 0, [9, 9, 0, 0, 0, 97], [97], by decide, rfl, rfl⟩

end WireValue

end ThinClient
