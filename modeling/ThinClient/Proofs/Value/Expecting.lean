import ThinClient.Proofs.Value.Nesting

/-!
# Expecting a kind of value

There are two ways to read a tagged value: as whatever its type code says, or as one kind that is
expected, where null may stand in its place. The second looks at the type code before it takes it,
so that it can leave a value of another kind where it is.

* `typeCode_of_readBody`: what is read under a type code is a value of this kind.
* `decode_of_code` and `expecting_of_code` are the two ways behind a type code, and
  `decodeExpected_of_code` says that they are the same behind the one that is expected.
* `NotFound` is a buffer that starts with nothing that is wanted, and `front_cases` what else it can
  start with.
* `readTextOf` reads a text the second way and refuses what is no text.
* `decodeExpected_iff_decode`: **both ways give the same values and leave the same octets**, where
  they fail with the same body they fail alike, and with any other type code the second one takes
  nothing. No value that is no text ever comes out when a text is expected.
-/

namespace ThinClient.WireValue

open Reader

variable {α β : Type} {code expected found : TypeCode} {v : WireValue} {b : UInt8}
  {buffer rest left : Bytes}

/-! ## Values are of the kind that was read -/

theorem exists_of_map {r : Reader α} {f : α → β} {c : β} (h : (f <$> r) buffer = .ok c rest) :
    ∃ a, c = f a := by
  obtain ⟨a, middle, -, hpure⟩ := bind_apply_eq_ok h
  cases hpure
  exact ⟨a, rfl⟩

/-- What is read under a type code is a value of this kind, however records are read. -/
theorem typeCode_of_readBody {value : Reader WireValue}
    (h : readBody value code buffer = .ok v rest) : v.typeCode = code := by
  cases code with
  | null =>
    cases h
    rfl
  | _ =>
    obtain ⟨a, rfl⟩ := exists_of_map h
    rfl

theorem typeCode_of_decodeBody (h : decodeBody code buffer = .ok v rest) : v.typeCode = code :=
  typeCode_of_readBody h

/-! ## By the first octet -/

theorem decode_of_unknown (h : TypeCode.ofByte? b = none) (rest : Bytes) :
    decode (b :: rest) = .error (.unknownType b) rest := by
  have hcode := readTypeCode_cons b rest
  rw [h] at hcode
  rw [decode_eq]
  exact bind_apply_error hcode

theorem decode_of_code (code : TypeCode) (rest : Bytes) :
    decode (code.toByte :: rest) = decodeBody code rest := by
  have hcode := readTypeCode_cons code.toByte rest
  rw [TypeCode.ofByte?_toByte] at hcode
  rw [decode_eq]
  exact bind_apply_ok hcode

theorem decode_of_null (rest : Bytes) : decode (TypeCode.null.toByte :: rest) = .ok .null rest :=
  decode_of_code .null rest

theorem expecting_of_null (expected : TypeCode) (body : Reader α) (rest : Bytes) :
    expecting expected body (TypeCode.null.toByte :: rest) = .ok none rest := by
  simp only [expecting, TypeCode.ofByte?_toByte, if_true]

theorem expecting_of_code (hnull : code ≠ .null) (body : Reader α) (rest : Bytes) :
    expecting code body (code.toByte :: rest) = (some <$> body) rest := by
  simp only [expecting, TypeCode.ofByte?_toByte, if_neg hnull, if_true]

/-- After the type code that is expected, the body is read as it always is. -/
theorem decodeExpected_of_code (hnull : code ≠ .null) (rest : Bytes) :
    decodeExpected code (code.toByte :: rest) = (some <$> decode) (code.toByte :: rest) := by
  have hbody := decode_of_code code rest
  rw [decodeExpected, expecting_of_code hnull]
  cases h : decodeBody code rest with
  | ok v left => rw [map_apply_ok some h, map_apply_ok some (hbody.trans h)]
  | error e left => rw [map_apply_error some h, map_apply_error some (hbody.trans h)]

/-- The first octet of a buffer keeps a reader from taking a value of the kind that it expects:
there is none, or it stands for nothing or for another kind. -/
inductive NotFound (expected : TypeCode) : Bytes → DecodeError → Prop
  | nothing : NotFound expected [] (.truncated 1 0)
  | unknown {b : UInt8} (rest : Bytes) (h : TypeCode.ofByte? b = none) :
    NotFound expected (b :: rest) (.unknownType b)
  | other {found : TypeCode} (rest : Bytes) (hne : found ≠ expected) (hnull : found ≠ .null) :
    NotFound expected (found.toByte :: rest) (.unexpectedType expected found)

namespace NotFound

variable {e : DecodeError}

/-- Nothing is taken then. -/
theorem expecting_eq (h : NotFound expected buffer e) (body : Reader α) :
    expecting expected body buffer = .error e buffer := by
  cases h with
  | nothing => rfl
  | unknown rest h => simp only [expecting, h]
  | other rest hne hnull =>
    simp only [expecting, TypeCode.ofByte?_toByte, if_neg hnull, if_neg hne]

theorem decodeExpected_eq (h : NotFound expected buffer e) :
    decodeExpected expected buffer = .error e buffer :=
  h.expecting_eq _

/-- Whatever is there, it is neither what is expected nor null. -/
theorem typeCode_ne (h : NotFound expected buffer e) (hread : decode buffer = .ok v rest) :
    v.typeCode ≠ expected ∧ v.typeCode ≠ .null := by
  cases h with
  | nothing => cases hread
  | unknown after h =>
    rw [decode_of_unknown h] at hread
    cases hread
  | other after hne hnull =>
    rw [decode_of_code] at hread
    rw [typeCode_of_decodeBody hread]
    exact ⟨hne, hnull⟩

end NotFound

/-- A buffer starts with nothing that is wanted, with null, or with the type code that is
expected. -/
theorem front_cases (expected : TypeCode) (buffer : Bytes) :
    (∃ e, NotFound expected buffer e) ∨ (∃ rest, buffer = TypeCode.null.toByte :: rest) ∨
      ∃ rest, expected ≠ .null ∧ buffer = expected.toByte :: rest := by
  cases buffer with
  | nil => exact .inl ⟨_, .nothing⟩
  | cons b rest =>
    cases hb : TypeCode.ofByte? b with
    | none => exact .inl ⟨_, .unknown rest hb⟩
    | some found =>
      obtain rfl := TypeCode.toByte_of_ofByte? hb
      by_cases hnull : found = .null
      · exact .inr (.inl ⟨rest, by rw [hnull]⟩)
      by_cases hfound : found = expected
      · exact .inr (.inr ⟨rest, hfound ▸ hnull, by rw [hfound]⟩)
      · exact .inl ⟨_, .other rest hfound hnull⟩

/-! ## Both ways together -/

theorem exists_text_of_typeCode (h : v.typeCode = .string) : ∃ text, v = .string text := by
  cases v with
  | string text => exact ⟨text, rfl⟩
  | _ => cases h

theorem decodeExpected_eq_some_iff :
    decodeExpected expected buffer = .ok (some v) rest ↔
      decode buffer = .ok v rest ∧ v.typeCode = expected ∧ expected ≠ .null := by
  rcases front_cases expected buffer with ⟨e, h⟩ | ⟨after, rfl⟩ | ⟨after, hnull, rfl⟩
  · rw [h.decodeExpected_eq]
    constructor
    · intro hread
      cases hread
    · rintro ⟨hread, hcode, -⟩
      exact absurd hcode (h.typeCode_ne hread).1
  · rw [decodeExpected, expecting_of_null, decode_of_null]
    constructor
    · intro hread
      cases hread
    · rintro ⟨hread, hcode, hnull⟩
      cases hread
      exact absurd hcode.symm hnull
  · rw [decodeExpected_of_code hnull]
    cases hread : decode (expected.toByte :: after) with
    | error e left =>
      rw [map_apply_error some hread]
      simp
    | ok v' left =>
      have hcode : v'.typeCode = expected := by
        rw [decode_of_code] at hread
        exact typeCode_of_decodeBody hread
      rw [map_apply_ok some hread]
      constructor
      · intro hsome
        cases hsome
        exact ⟨rfl, hcode, hnull⟩
      · rintro ⟨hok, -, -⟩
        cases hok
        rfl

theorem decodeExpected_eq_none_iff :
    decodeExpected expected buffer = .ok none rest ↔ decode buffer = .ok .null rest := by
  rcases front_cases expected buffer with ⟨e, h⟩ | ⟨after, rfl⟩ | ⟨after, hnull, rfl⟩
  · rw [h.decodeExpected_eq]
    constructor
    · intro hread
      cases hread
    · intro hread
      exact absurd rfl (h.typeCode_ne hread).2
  · rw [decodeExpected, expecting_of_null, decode_of_null]
    simp
  · constructor
    · intro hread
      rw [decodeExpected_of_code hnull] at hread
      obtain ⟨v, hv⟩ := exists_of_map hread
      cases hv
    · intro hread
      rw [decode_of_code] at hread
      exact absurd (typeCode_of_decodeBody hread).symm hnull

theorem decodeExpected_eq_error_iff {e : DecodeError} :
    decodeExpected expected buffer = .error e left ↔
      (NotFound expected buffer e ∧ left = buffer) ∨
        (∃ body, buffer = expected.toByte :: body) ∧ decode buffer = .error e left := by
  constructor
  · intro hread
    rcases front_cases expected buffer with ⟨e', h⟩ | ⟨after, rfl⟩ | ⟨after, hnull, rfl⟩
    · rw [h.decodeExpected_eq] at hread
      cases hread
      exact .inl ⟨h, rfl⟩
    · rw [decodeExpected, expecting_of_null] at hread
      cases hread
    · refine .inr ⟨⟨after, rfl⟩, ?_⟩
      rw [decodeExpected_of_code hnull] at hread
      cases hbody : decode (expected.toByte :: after) with
      | ok v rest =>
        rw [map_apply_ok some hbody] at hread
        cases hread
      | error e' rest =>
        rw [map_apply_error some hbody] at hread
        cases hread
        rfl
  · rintro (⟨h, rfl⟩ | ⟨⟨after, rfl⟩, hbody⟩)
    · exact h.decodeExpected_eq
    · have hnull : expected ≠ .null := by
        rintro rfl
        rw [decode_of_null] at hbody
        cases hbody
      rw [decodeExpected_of_code hnull, map_apply_error some hbody]

/-- A text, or null, by way of a reader that could give a value of any kind; `cause` is what it
would say to one that is no text. -/
def readTextOf (cause : DecodeError) : Reader (Option String) := do
  match ← decodeExpected .string with
  | some (.string text) => return some text
  | some _ => throw cause
  | none => return none

/-- It never gets one that is no text. -/
theorem readTextOf_eq (cause : DecodeError) : readTextOf cause = readNullableText := by
  funext buffer
  rcases front_cases .string buffer with ⟨e, h⟩ | ⟨after, rfl⟩ | ⟨after, -, rfl⟩
  · rw [readTextOf, bind_apply_error h.decodeExpected_eq, readNullableText, h.expecting_eq]
  · have hnone : decodeExpected .string (TypeCode.null.toByte :: after) = .ok none after :=
      expecting_of_null _ _ _
    rw [readTextOf, bind_apply_ok hnone, readNullableText, expecting_of_null]
    rfl
  · have hstring : TypeCode.string ≠ .null := by decide
    have hbody : decodeBody .string = string <$> readText := decodeBody_eq .string
    rw [readNullableText, expecting_of_code hstring]
    have hexpected : decodeExpected .string (TypeCode.string.toByte :: after) =
        (some <$> string <$> readText) after := by
      rw [decodeExpected, expecting_of_code hstring, hbody]
    cases htext : readText after with
    | ok text rest =>
      rw [map_apply_ok some (map_apply_ok string htext)] at hexpected
      rw [readTextOf, bind_apply_ok hexpected, map_apply_ok some htext]
      rfl
    | error e rest =>
      rw [map_apply_error some (map_apply_error string htext)] at hexpected
      rw [readTextOf, bind_apply_error hexpected, map_apply_error some htext]

/-- **A reader that expects a kind of value gives what the reader of any value gives**, if that is
of the kind or null, and leaves the same octets. It fails where the first octet is missing, unknown
or of another kind, and takes nothing then; and it fails with the body of the value, in the same way
and with the same octets left. So a reader of texts has no use for an answer to values that are no
texts. -/
theorem decodeExpected_iff_decode (expected : TypeCode) (buffer : Bytes) :
    (∀ v rest, decodeExpected expected buffer = .ok (some v) rest ↔
      decode buffer = .ok v rest ∧ v.typeCode = expected ∧ expected ≠ .null) ∧
    (∀ rest, decodeExpected expected buffer = .ok none rest ↔ decode buffer = .ok .null rest) ∧
    (∀ e left, decodeExpected expected buffer = .error e left ↔
      (NotFound expected buffer e ∧ left = buffer) ∨
        (∃ body, buffer = expected.toByte :: body) ∧ decode buffer = .error e left) ∧
    (∀ v rest, decodeExpected .string buffer = .ok (some v) rest → ∃ text, v = .string text) ∧
    ∀ cause, readNullableText buffer = readTextOf cause buffer := by
  refine ⟨fun _ _ => decodeExpected_eq_some_iff, fun _ => decodeExpected_eq_none_iff,
    fun _ _ => decodeExpected_eq_error_iff, fun v rest hread => ?_,
    fun cause => (congrFun (readTextOf_eq cause) buffer).symm⟩
  obtain ⟨-, hcode, -⟩ := decodeExpected_eq_some_iff.mp hread
  exact exists_text_of_typeCode hcode

/-- A text of one letter with an octet behind it, and one that is not UTF-8. -/
theorem decodeExpected_iff_decode_letter :
    decodeExpected .string [9, 1, 0, 0, 0, 97, 5] = .ok (some (.string "a")) [5] ∧
      decodeExpected .int [9, 1, 0, 0, 0, 97, 5] =
        .error (.unexpectedType .int .string) [9, 1, 0, 0, 0, 97, 5] ∧
      decodeExpected .string [9, 1, 0, 0, 0, 255, 5] = .error (.utf8 ⟨0, some 1⟩) [5] ∧
      ∃ text, WireValue.string "a" = .string text := by
  obtain ⟨hsome, -, -, htext, -⟩ := decodeExpected_iff_decode .string [9, 1, 0, 0, 0, 97, 5]
  obtain ⟨-, -, hother, -, -⟩ := decodeExpected_iff_decode .int [9, 1, 0, 0, 0, 97, 5]
  obtain ⟨-, -, hbad, -, -⟩ := decodeExpected_iff_decode .string [9, 1, 0, 0, 0, 255, 5]
  have hread := (hsome (.string "a") [5]).mpr ⟨rfl, rfl, by decide⟩
  refine ⟨hread, ?_, ?_, htext _ _ hread⟩
  · exact (hother _ _).mpr (.inl ⟨@NotFound.other .int .string _ (by decide) (by decide), rfl⟩)
  · exact (hbad _ _).mpr (.inr ⟨⟨_, rfl⟩, rfl⟩)

end ThinClient.WireValue
