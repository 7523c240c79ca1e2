import ThinClient.Proofs.Value.RoundTrip
import ThinClient.Query.Basic

/-!
# Servers that answer

What a client may expect of a server: it refuses a request with a status and a text, or it answers
with what the request asks for. A server is a function of all that was asked and answered before,
so that nothing is left out that it could do.

* `Page` is a page: rows of values of one width, and an octet that says whether there are more. It
  is all octets that a client can take for values, and also values of which the client does not
  know the type, as long as it finds that out within them.
* `Answer` is what a server says, and `Answer.body` how it is written.
* `Ledger` has the cursors that are open: a cursor is open from the answer that opens it until the
  server has sent its last page, or has been asked to release it.
* `Server` is a server whose answers are of the right kind.
-/

namespace ThinClient

open Reader

/-! ## Operations -/

namespace Operation

/-- The operations that open a cursor. -/
def opening : List Operation :=
  [querySqlFields, querySql, queryScan]

/-- The operations that ask for a page of a cursor. -/
def paging : List Operation :=
  [querySqlFieldsPage, querySqlPage, queryScanPage]

variable {op : Operation}

theorem ne_resourceClose_of_opening (h : op ∈ opening) : op ≠ resourceClose := by
  rintro rfl
  revert h
  decide

theorem ne_resourceClose_of_paging (h : op ∈ paging) : op ≠ resourceClose := by
  rintro rfl
  revert h
  decide

end Operation

/-! ## What is written -/

/-- A tagged text or null with its octets. -/
structure TaggedText where
  text : Option String
  octets : Bytes
  encoded : encodeNullableText text = .ok octets

theorem TaggedText.takes (t : TaggedText) : Takes WireValue.readNullableText t.octets t.text :=
  WireValue.encodeNullableText_takes t.encoded

/-- The octets of a value with its type code, of a type that a client need not know. -/
structure TaggedValue where
  octets : Bytes
  ne_nil : octets ≠ []
  staysIn : StaysIn WireValue.decode octets

/-- What a client would write is a value. -/
def TaggedValue.ofEncode (v : WireValue) (octets : Bytes) (h : v.encode = .ok octets) :
    TaggedValue where
  octets
  ne_nil := by
    obtain ⟨body, -, h⟩ := Except.bind_eq_ok h
    cases h
    simp
  staysIn := by
    obtain ⟨body, hbody, h⟩ := Except.bind_eq_ok h
    cases h
    exact (WireValue.decode_takes_of_body (WireValue.encodeBody_takes v hbody)).staysIn

/-- A value of a type that a client does not know. -/
def TaggedValue.ofUnknown (code : UInt8) (body : Bytes) (h : TypeCode.ofByte? code = none) :
    TaggedValue where
  octets := code :: body
  ne_nil := List.cons_ne_nil _ _
  staysIn rest := by
    refine .inr ⟨.unknownType code, body, ?_⟩
    have hcode : WireValue.readTypeCode (code :: (body ++ rest)) =
        .error (.unknownType code) (body ++ rest) := by
      rw [WireValue.readTypeCode_cons, h]
    exact bind_apply_error hcode

/-- A page of a result. -/
structure Page where
  width : Nat
  rows : List (List TaggedValue)
  length_of_mem : ∀ row ∈ rows, row.length = width
  length_le : rows.length ≤ greatestCount
  /-- Zero if this is the last page. -/
  more : UInt8

namespace Page

/-- The octets of rows. -/
def rowOctets (rows : List (List TaggedValue)) : Bytes :=
  rows.flatMap fun row => row.flatMap TaggedValue.octets

/-- The octets of a page. -/
def octets (p : Page) : Bytes :=
  LittleEndian.encode 4 p.rows.length ++ (rowOctets p.rows ++ [p.more])

theorem le_length_row (row : List TaggedValue) :
    row.length ≤ (row.flatMap TaggedValue.octets).length := by
  induction row with
  | nil => simp
  | cons value row ih =>
    have hvalue := List.length_pos_iff.mpr value.ne_nil
    rw [List.flatMap_cons, List.length_append, List.length_cons]
    omega

/-- A value has at least one octet. -/
theorem le_length_rowOctets {width : Nat} (rows : List (List TaggedValue))
    (h : ∀ row ∈ rows, row.length = width) : rows.length * width ≤ (rowOctets rows).length := by
  induction rows with
  | nil => simp
  | cons row rows ih =>
    have hrow := le_length_row row
    rw [h row (by simp)] at hrow
    have ih := ih fun row hrow => h row (by simp [hrow])
    rw [rowOctets] at ih ⊢
    rw [List.flatMap_cons, List.length_append, List.length_cons, Nat.add_mul]
    omega

end Page

/-! ## What a server says -/

/-- What a server says to a request. -/
inductive Answer where
  /-- A status other than 0, with a text. -/
  | refused (status : Int32) (text : TaggedText)
  /-- The id of a new cursor, its columns and its first page. -/
  | opened (id : Int64) (columns : Bytes) (first : Page)
  | page (next : Page)
  | done (payload : Bytes)

namespace Answer

/-- The status that goes with an answer. -/
def status : Answer → Int32
  | refused status _ => status
  | opened .. | page _ | done _ => 0

/-- What follows the status. -/
def payload : Answer → Bytes
  | refused _ text => text.octets
  | opened id columns first => Word.encode id ++ (columns ++ first.octets)
  | page next => next.octets
  | done payload => payload

/-- An answer to a request, without its length. -/
def body (a : Answer) (request : Request) : Bytes :=
  Word.encode request.id ++ (Word.encode a.status ++ a.payload)

/-- Whether an answer says that something went wrong. -/
def IsRefusal (a : Answer) : Prop :=
  ∃ status text, status ≠ 0 ∧ a = refused status text

end Answer

namespace Answer

variable {a : Answer} {request : Request}

theorem take_body (a : Answer) (request : Request) :
    (a.body request).take 8 = Word.encode request.id :=
  List.take_left' (Word.length_encode request.id)

theorem take_drop_body (a : Answer) (request : Request) :
    ((a.body request).drop 8).take 4 = Word.encode a.status := by
  have hid : (Word.encode request.id).length = 8 := Word.length_encode request.id
  rw [body, List.drop_left' hid]
  exact List.take_left' (Word.length_encode a.status)

theorem drop_body (a : Answer) (request : Request) :
    (a.body request).drop Response.headerLength = a.payload := by
  have hheader : (Word.encode request.id ++ Word.encode a.status).length =
      Response.headerLength := by
    rw [List.length_append, Word.length_encode, Word.length_encode]
    rfl
  rw [body, ← List.append_assoc]
  exact List.drop_left' hheader

theorem headerLength_le_body (a : Answer) (request : Request) :
    ¬ (a.body request).length < Response.headerLength := by
  have hid : (Word.encode request.id).length = 8 := Word.length_encode request.id
  have hstatus : (Word.encode a.status).length = 4 := Word.length_encode a.status
  rw [body, List.length_append, List.length_append, Response.headerLength]
  omega

/-- An answer is for its request, and the status 0 is a success. -/
theorem ofFrame_of_status (h : a.status = 0) :
    Response.ofFrame request.ref (a.body request) = .ok ⟨request.op, request.id, a.payload⟩ := by
  unfold Response.ofFrame
  rw [if_neg (headerLength_le_body a request)]
  simp [take_body, take_drop_body, drop_body, Request.ref, h]

/-- A refusal is a failure, but not one of the connection. -/
theorem ofFrame_of_isRefusal (h : a.IsRefusal) :
    ∃ cause : ApplicationError, Response.ofFrame request.ref (a.body request) = .error cause := by
  obtain ⟨status, text, hstatus, rfl⟩ := h
  have hread := text.takes.exactly
  refine ⟨⟨request.ref, status, text.text.getD ""⟩, ?_⟩
  unfold Response.ofFrame
  rw [if_neg (headerLength_le_body _ request)]
  simp [take_body, take_drop_body, drop_body, Request.ref, Answer.status, hstatus,
    Response.explanation, payload, hread]

end Answer

/-- A request with its answer. -/
structure Round where
  request : Request
  answer : Answer

/-- The cursor or other resource that a request is about. -/
def Request.target (r : Request) : Int64 :=
  Word.decode Int64 (r.payload.take 8)

/-! ## What a server holds -/

/-- A cursor as a server keeps it. -/
structure Holding where
  id : Int64
  /-- The operation that asks for its next page. -/
  pageOp : Operation
  width : Nat
  deriving DecidableEq

/-- What a server has opened and released. -/
structure Ledger where
  /-- The cursors that are open. -/
  held : List Holding := []
  /-- The ids of all cursors that were ever opened. -/
  given : List Int64 := []
  /-- What it was asked to release. -/
  closed : List Int64 := []
  /-- What it was asked to release and did not hold. -/
  strays : List Int64 := []

namespace Ledger

/-- The ids of the open cursors. -/
def ids (l : Ledger) : List Int64 :=
  l.held.map Holding.id

/-- The ledger without a cursor. -/
def release (l : Ledger) (id : Int64) : Ledger :=
  { l with held := l.held.filter (·.id ≠ id) }

/-- The ledger after a request to release something, whatever is said to it. -/
def close (l : Ledger) (id : Int64) : Ledger :=
  { l.release id with
    closed := l.closed ++ [id], strays := if id ∈ l.ids then l.strays else l.strays ++ [id] }

/-- The ledger after a cursor was opened and its first page sent. -/
def opened (l : Ledger) (holding : Holding) (more : UInt8) : Ledger :=
  { l with
    held := if more = 0 then l.held else l.held ++ [holding], given := l.given ++ [holding.id] }

/-- The ledger after a page was sent. -/
def paged (l : Ledger) (id : Int64) (more : UInt8) : Ledger :=
  if more = 0 then l.release id else l

/-- The operation that asks for a page of a cursor that this operation opens. -/
def pageOp (op : Operation) : Operation :=
  if op = .querySqlFields then .querySqlFieldsPage
  else if op = .querySql then .querySqlPage else .queryScanPage

/-- The ledger after a request and its answer. -/
def record (l : Ledger) (round : Round) : Ledger :=
  if round.request.op = .resourceClose then l.close round.request.target
  else
    match round.answer with
    | .opened id _ first => l.opened ⟨id, pageOp round.request.op, first.width⟩ first.more
    | .page next => l.paged round.request.target next.more
    | .refused .. | .done _ => l

/-- The ledger after all that was asked and answered. -/
def ofPast (past : List Round) : Ledger :=
  past.foldl record {}

theorem ofPast_snoc (past : List Round) (round : Round) :
    ofPast (past ++ [round]) = (ofPast past).record round := by
  simp [ofPast]

end Ledger

/-! ## Servers -/

/-- The columns that go with an answer that opens a cursor: how many there are, with their names
if the request asks for them, or nothing for the entries of a cache. -/
def HasColumns (request : Request) (columns : Bytes) (width : Nat) : Prop :=
  if request.op = .querySqlFields then
    ∃ names : List TaggedText, names.length = width ∧ width ≤ greatestCount ∧
      columns = LittleEndian.encode 4 width ++
        if request.payload.getLast? = some 0 then [] else names.flatMap TaggedText.octets
  else columns = [] ∧ width = 2

/-- A server. What it says to a request can depend on all that was said before. -/
structure Server where
  answer : (past : List Round) → Request → Answer
  /-- A request for a new cursor is refused, or answered with an id that was never given. -/
  answer_open : ∀ past request,
    request.op ∈ Operation.opening →
      (answer past request).IsRefusal ∨ ∃ id columns first,
        answer past request = .opened id columns first ∧ id ∉ (Ledger.ofPast past).given ∧
          HasColumns request columns first.width
  /-- A request for a page of an open cursor is refused, or answered with a page. -/
  answer_page : ∀ past request width, request.op ∈ Operation.paging →
    ⟨request.target, request.op, width⟩ ∈ (Ledger.ofPast past).held →
      (answer past request).IsRefusal ∨
        ∃ next, answer past request = .page next ∧ next.width = width
  /-- A request to release something is refused or done. -/
  answer_close : ∀ past request, request.op = .resourceClose →
    (answer past request).IsRefusal ∨ ∃ payload, answer past request = .done payload
  /-- An answer fits into a frame. -/
  body_le : ∀ past request, ((answer past request).body request).length ≤ greatestCount

end ThinClient
