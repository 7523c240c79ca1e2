import ThinClient.Proofs.Connection.Broken
import ThinClient.Proofs.Query.Calls
import ThinClient.Proofs.Server.Ledger

/-!
# Custody of cursors

A cursor and its server agree about who has to release it. The server lets go of a cursor with its
last page, which the cursor sees at the last octet of the page long before it has taken the rows.

* `Steady` is a client whose server holds known cursors, `Settled` one whose server holds what is
  deferred to close.
* `Cursor.Fair` says that the server holds a cursor if and only if the cursor takes it so, and
  `Cursor.InStep` adds that the page of the cursor has all the rows that it is said to have.
* `Cursor.advance_line` is one turn, `Cursor.fetchAll_line`, `Cursor.nextRow_line` and
  `Cursor.fetchOne_line` are turns up to the end of a call, and `Cursor.close_lands` is a close:
  however they end, the cursor is in step.
* `Cursor.InStep.drop` and `Query.openCursor_line` are where a cursor ends and where it begins.
-/

namespace ThinClient

open Connection

variable {server : Server}

/-! ## Clients whose server holds known cursors -/

/-- A client between two calls, all of whose closes have been sent, and what its server holds. -/
structure Steady (client : Client (Line server)) (held : List Holding) : Prop where
  serving : Serving client
  sound : (ledger client).Sound
  held_eq : (ledger client).held = held
  pendingClose_eq : client.connection.pendingClose = []

/-- A client between two calls: its server holds what it has deferred to close. -/
structure Settled (client : Client (Line server)) : Prop where
  serving : Serving client
  sound : (ledger client).Sound
  held_perm : (ledger client).ids.Perm client.connection.pendingClose

variable {client : Client (Line server)} {held : List Holding}

/-- What a client has reported, and the ids it has taken, make no difference to its server. -/
theorem Steady.congr {after : Client (Line server)} (h : Steady client held)
    (hphase : after.connection.phase = client.connection.phase)
    (hstream : after.connection.stream = client.connection.stream)
    (hpending : after.connection.pendingClose = client.connection.pendingClose) :
    Steady after held := by
  have hledger : ledger after = ledger client := by rw [ledger, ledger, past, past, hstream]
  exact ⟨⟨hphase.trans h.serving.ready, hstream ▸ h.serving.quiet⟩, hledger ▸ h.sound,
    hledger ▸ h.held_eq, hpending.trans h.pendingClose_eq⟩

theorem Steady.settled (h : Steady client []) : Settled client := by
  refine ⟨h.serving, h.sound, ?_⟩
  rw [Ledger.ids, h.held_eq, h.pendingClose_eq]
  exact .refl _

/-- The deferred closes are all that the server holds, and they are sent. -/
theorem Settled.closePending (h : Settled client) :
    ∃ after, closePending client = .ok () after ∧ Steady after [] := by
  obtain ⟨after, hcall, hserving, hledger, hpending⟩ := closePending_line h.serving
  obtain ⟨hsound, hheld⟩ := h.sound.closes_all h.held_perm
  exact ⟨after, hcall, hserving, hledger ▸ hsound, hledger ▸ hheld, hpending⟩

/-- With nothing deferred only the request is sent. -/
theorem sendAndReceive_of_steady (h : Steady client held) (request : Request) :
    sendAndReceive request client = roundTrip request client := by
  rw [sendAndReceive_eq, bind_apply, closePending_nil h.pendingClose_eq]

namespace Cursor

/-! ## Cursors -/

/-- What a server holds for a cursor that is open. -/
def holding (c : Cursor) : Holding :=
  ⟨c.id, c.pageOp, c.columns.width⟩

/-- Whether a cursor takes it that its server does not hold it any more. -/
def isOver (c : Cursor) : Bool :=
  c.state.isFinal || c.isReleased

/-- The server holds a cursor if and only if the cursor takes it so. -/
def Fair (s : OpenCursor (Line server)) : Prop :=
  Steady s.client (if s.cursor.isOver then [] else [s.cursor.holding])

/-- The page holds so many rows as the cursor has still to give, and the last octet. -/
def HasRows (c : Cursor) : Prop :=
  ∃ rows more, (∀ row ∈ rows, row.length = c.columns.width) ∧ c.remaining = rows.length ∧
    c.page = Page.rowOctets rows ++ [more]

/-- A cursor between two turns. -/
structure InStep (s : OpenCursor (Line server)) : Prop where
  fair : Fair s
  hasRows : s.cursor.state = .hasBufferedRows → HasRows s.cursor

variable {s : OpenCursor (Line server)}

theorem InStep.of_final (h : s.cursor.state.isFinal = true) (hs : Steady s.client []) :
    InStep s := by
  refine ⟨?_, fun hstate => ?_⟩
  · rw [Fair, isOver, h]
    exact hs
  · rw [hstate] at h
    cases h

/-- However a call ends, the cursor is in step. -/
def Lands {α : Type} : EStateM.Result (Stop Error) (OpenCursor (Line server)) α → Prop
  | .ok _ after | .error _ after => InStep after

/-- A close that is needed is sent, and one that is not needed is not. -/
theorem close_line (h : Fair s) :
    ∃ after, after.cursor.state.isFinal = true ∧ Steady after.client [] ∧
      (close s = .ok () after ∨ ∃ e : Error, close s = .error (.failed e) after) := by
  cases hfinal : s.cursor.state.isFinal with
  | true =>
    rw [Fair, isOver, hfinal] at h
    exact ⟨s, hfinal, h, .inl (close_of_final hfinal)⟩
  | false =>
    cases hreleased : s.cursor.isReleased with
    | true =>
      rw [Fair, isOver, hfinal, hreleased] at h
      refine ⟨_, ?_, ?_, .inl (close_of_released hfinal hreleased)⟩
      · rfl
      · exact h
    | false =>
      rw [Fair, isOver, hfinal, hreleased] at h
      obtain ⟨after, hclosed, hcall⟩ := closeResource_line h.serving s.cursor.id
      have hheld : s.cursor.id ∈ (ledger s.client).ids := by
        rw [Ledger.ids, h.held_eq]
        simp [holding]
      have hsteady : Steady after [] := by
        refine ⟨hclosed.serving, ?_, ?_, hclosed.pendingClose_eq.trans h.pendingClose_eq⟩
        · rw [hclosed.ledger_eq]
          exact h.sound.close hheld
        · rw [hclosed.ledger_eq]
          simp [Ledger.close_held, h.held_eq, holding]
      rw [close_of_open hfinal hreleased]
      refine ⟨⟨{ s.cursor with page := [], remaining := 0, state := .closed }, after⟩, rfl, hsteady,
        ?_⟩
      rcases hcall with hcall | ⟨e, -, hcall⟩
      · exact .inl (by simp only [onClient, hcall])
      · exact .inr ⟨e, by simp only [onClient, hcall]⟩

theorem closeQuietly_line (h : Fair s) :
    ∃ after, after.cursor.state.isFinal = true ∧ Steady after.client [] ∧
      closeQuietly s = .ok () after := by
  obtain ⟨after, hfinal, hsteady, hcall⟩ := close_line h
  rcases hcall with hcall | ⟨e, hcall⟩
  · exact ⟨after, hfinal, hsteady, closeQuietly_of_ok hcall⟩
  · refine ⟨_, ?_, ?_, closeQuietly_of_failed hcall⟩
    · exact hfinal
    · exact hsteady.congr rfl rfl rfl

/-- After a failure that is not one of the connection the cursor is closed. -/
theorem abort_line {α : Type} {e : Error} (he : e.isConnectionError = false) (h : Fair s) :
    ∃ after, InStep after ∧ abort (α := α) e s = .error (.failed e) after := by
  obtain ⟨after, hfinal, hsteady, hcall⟩ := closeQuietly_line h
  exact ⟨after, .of_final hfinal hsteady, abort_of_closed he hcall⟩

theorem abort_lands {α : Type} {e : Error} (he : e.isConnectionError = false) (h : Fair s) :
    Lands (abort (α := α) e s) := by
  obtain ⟨after, hafter, hcall⟩ := abort_line (α := α) he h
  rw [hcall]
  exact hafter

/-! ## Pages -/

/-- A cursor with a page. -/
def withPage (c : Cursor) (page : Page) : Cursor :=
  { c with
    page := Page.rowOctets page.rows ++ [page.more], remaining := page.rows.length
    state := .hasBufferedRows }

/-- A page of the width of the cursor can be taken. -/
theorem load_octets {c : Cursor} {page : Page} (hwidth : page.width = c.columns.width) :
    c.load page.octets = .ok (c.withPage page) := by
  have hcount := Reader.takes_count page.length_le (Page.rowOctets page.rows ++ [page.more])
  have hleast := Page.le_length_rowOctets page.rows page.length_of_mem
  have henough : ¬ (Page.rowOctets page.rows ++ [page.more]).length <
      page.rows.length * c.columns.width := by
    rw [List.length_append, ← hwidth]
    omega
  rw [load, Page.octets, hcount]
  simp only
  rw [if_neg henough]
  rfl

theorem isReleased_of_page {c : Cursor} {octets : Bytes} {more : UInt8}
    (hstate : c.state = .hasBufferedRows) (hpage : c.page = octets ++ [more]) :
    c.isReleased = decide (more = 0) := by
  simp [isReleased, hstate, hpage]

theorem isOver_of_page {c : Cursor} {octets : Bytes} {more : UInt8}
    (hstate : c.state = .hasBufferedRows) (hpage : c.page = octets ++ [more]) :
    c.isOver = decide (more = 0) := by
  simp [isOver, hstate, CursorState.isFinal, isReleased_of_page hstate hpage]

/-- The server lets go of a cursor with its last page, and the cursor knows. -/
theorem InStep.withPage {c : Cursor} {page : Page} (hwidth : page.width = c.columns.width)
    (h : Steady client (if page.more = 0 then [] else [c.holding])) :
    InStep ⟨c.withPage page, client⟩ := by
  constructor
  · have hover := isOver_of_page (c := c.withPage page) rfl rfl
    rw [Fair, hover]
    simp only [decide_eq_true_eq]
    exact h
  · exact fun _ => ⟨page.rows, page.more,
      fun row hmem => (page.length_of_mem row hmem).trans hwidth, rfl, rfl⟩

/-- A page that is asked for comes, or the cursor is closed. -/
theorem fetchPage_line (h : Steady s.client [s.cursor.holding]) : Lands (fetchPage s) := by
  have htook : Steady (tookId s.client) [s.cursor.holding] := h.congr rfl rfl rfl
  have hsend := sendAndReceive_of_steady htook (pageRequest s)
  have htarget : (pageRequest s).target = s.cursor.id := target_putWord _ _ _
  have hpaging : (pageRequest s).op ∈ Operation.paging :=
    htook.sound.pageOp_mem s.cursor.holding (by rw [htook.held_eq]; simp)
  have hop := Operation.ne_resourceClose_of_paging hpaging
  obtain ⟨octets, hframe⟩ : ∃ octets, (pageRequest s).frame = .ok octets := frame_putWord _ _ _
  obtain ⟨client, hasked, hanswered, hrefused⟩ := roundTrip_line htook.serving hframe
  have hpending := hasked.pendingClose_eq.trans htook.pendingClose_eq
  have hheld : ⟨(pageRequest s).target, (pageRequest s).op, s.cursor.columns.width⟩ ∈
      (Ledger.ofPast (past (tookId s.client))).held := by
    change _ ∈ (ledger (tookId s.client)).held
    rw [htook.held_eq, htarget]
    exact List.mem_singleton.mpr rfl
  rcases server.answer_page _ _ _ hpaging hheld with hrefusal | ⟨next, hnext, hwidth⟩
  · obtain ⟨e, he, hcall⟩ := hrefused hrefusal
    have hsteady : Steady client [s.cursor.holding] := by
      have hledger : ledger client = ledger (tookId s.client) :=
        hasked.ledger_eq.trans (Ledger.record_of_isRefusal hop hrefusal)
      exact ⟨hasked.serving, hledger ▸ htook.sound, hledger ▸ htook.held_eq, hpending⟩
    obtain ⟨after, hafter, habort⟩ :=
      abort_line (α := Response) (s := ⟨fetching s.cursor, client⟩) he hsteady
    rw [fetchPage_of_failed (hsend.trans hcall) habort]
    exact hafter
  · have hledger : ledger client = (ledger (tookId s.client)).paged s.cursor.id next.more := by
      rw [hasked.ledger_eq, hnext, Ledger.record_page hop, htarget]
    have hsteady : Steady client (if next.more = 0 then [] else [s.cursor.holding]) := by
      refine ⟨hasked.serving, hledger ▸ htook.sound.paged, ?_, hpending⟩
      rw [hledger, Ledger.paged]
      split
      · simp [Ledger.release, htook.held_eq, holding]
      · exact htook.held_eq
    have hload : loadPage next.octets ⟨fetching s.cursor, client⟩ =
        .ok () ⟨(fetching s.cursor).withPage next, client⟩ :=
      loadPage_of_ok (load_octets hwidth)
    have hcall := hanswered (by rw [hnext]; rfl)
    rw [hnext] at hcall
    rw [fetchPage_of_response (hsend.trans hcall)]
    change Lands (loadPage next.octets ⟨fetching s.cursor, client⟩)
    rw [hload]
    exact .withPage hwidth hsteady

/-! ## Rows -/

/-- What is taken off a page makes no difference, as long as its last octet stays. -/
theorem Fair.of_page {c : Cursor} {octets octets' : Bytes} {more : UInt8} (h : Fair s)
    (hstate : s.cursor.state = .hasBufferedRows) (hpage : s.cursor.page = octets ++ [more])
    (hc : c.state = .hasBufferedRows) (hc' : c.page = octets' ++ [more])
    (hholding : c.holding = s.cursor.holding) : Fair ⟨c, s.client⟩ := by
  rw [Fair, isOver_of_page hstate hpage] at h
  rw [Fair, isOver_of_page hc hc', hholding]
  exact h

/-- A row is taken off the page, or the cursor is closed. The last octet of the page stays in any
case, since no value is read beyond its end. -/
theorem decodeRow_line (h : InStep s) (hstate : s.cursor.state = .hasBufferedRows)
    (hremaining : 0 < s.cursor.remaining) : Lands (decodeRow s) := by
  obtain ⟨rows, more, hwidth, hlength, hpage⟩ := h.hasRows hstate
  obtain ⟨row, rest, rfl⟩ : ∃ row rest, rows = row :: rest :=
    List.exists_cons_of_length_pos (by omega)
  have hrow : row.length = s.cursor.columns.width := hwidth row (by simp)
  have hstays : Reader.StaysIn (Reader.replicate row.length WireValue.decode)
      (row.flatMap TaggedValue.octets) :=
    .replicate fun value _ => value.staysIn
  have hfront : s.cursor.page = row.flatMap TaggedValue.octets ++
      (Page.rowOctets rest ++ [more]) := by
    rw [hpage, Page.rowOctets, List.flatMap_cons, List.append_assoc]
    rfl
  rcases hstays (Page.rowOctets rest ++ [more]) with ⟨values, hvalues⟩ | ⟨cause, left, hcause⟩
  · rw [← hfront, hrow] at hvalues
    rw [decodeRow_of_ok hvalues]
    refine ⟨h.fair.of_page hstate hpage hstate rfl rfl, fun _ => ⟨rest, more, ?_, ?_, rfl⟩⟩
    · exact fun row hmem => hwidth row (by simp [hmem])
    · simp [hlength]
  · rw [← hfront, hrow] at hcause
    rw [decodeRow_of_error hcause]
    have hleft : left ++ (Page.rowOctets rest ++ [more]) =
        (left ++ Page.rowOctets rest) ++ [more] := by simp
    exact abort_lands rfl (h.fair.of_page hstate hpage hstate hleft rfl)

/-! ## Turns -/

section Lands

variable {α β : Type}

theorem Lands.map {call : CursorCall (Line server) α} (h : Lands (call s)) (f : α → β) :
    Lands ((f <$> call) s) := by
  rw [map_apply]
  split
  next hcall => rwa [hcall] at h
  next hcall => rwa [hcall] at h

theorem Lands.bind {call : CursorCall (Line server) α} {next : α → CursorCall (Line server) β}
    (h : Lands (call s)) (hnext : ∀ a after, InStep after → Lands (next a after)) :
    Lands ((call >>= next) s) := by
  rw [bind_apply]
  split
  next hcall =>
    rw [hcall] at h
    exact hnext _ _ h
  next hcall => rwa [hcall] at h

end Lands

/-- A turn of a cursor keeps it in step. -/
theorem advance_line (h : InStep s) : Lands (advance s) := by
  have hfair := h.fair
  cases hstate : s.cursor.state with
  | exhausted | closed =>
    rw [advance_of_final (by simp [hstate, CursorState.isFinal])]
    exact h
  | created | fetchingNextPage =>
    rw [advance_of_waiting (by simp [hstate])]
    have hopen : s.cursor.isOver = false := by
      simp [isOver, isReleased, hstate, CursorState.isFinal]
    rw [Fair, hopen] at hfair
    exact (fetchPage_line hfair).map _
  | hasBufferedRows =>
    by_cases hremaining : 0 < s.cursor.remaining
    · rw [advance_of_rows hstate hremaining]
      exact (decodeRow_line h hstate hremaining).map _
    · obtain ⟨rows, more, hwidth, hlength, hpage⟩ := h.hasRows hstate
      have hnone : s.cursor.remaining = 0 := by omega
      obtain rfl : rows = [] := List.eq_nil_of_length_eq_zero (by omega)
      have hlast : s.cursor.page = [more] := hpage
      rw [Fair, isOver_of_page hstate hpage] at hfair
      by_cases hmore : more = 0
      · rw [advance_of_last hstate hnone (hmore ▸ hlast)]
        rw [hmore] at hfair
        exact .of_final rfl hfair
      · rw [advance_of_more hstate hnone hlast hmore]
        simp only [hmore] at hfair
        have hfetch : Lands (fetchPage { s with cursor := { s.cursor with page := [] } }) :=
          fetchPage_line hfair
        exact hfetch.map _

/-! ## Calls that take turns -/

section Calls

variable {α : Type} (read : Row → Except DecodeError α)

theorem nextRow_line (turns : Nat) (h : InStep s) : Lands (nextRow turns s) := by
  induction turns generalizing s with
  | zero => exact h
  | succ turns ih =>
    refine (advance_line h).bind fun turn after hafter => ?_
    cases turn with
    | row row => exact hafter
    | finished => exact hafter
    | fetched => exact ih hafter

theorem convert_line (row : Row) (h : InStep s) : Lands (convert read row s) := by
  cases hread : read row with
  | ok a =>
    simp only [convert, hread]
    exact h
  | error e =>
    simp only [convert, hread]
    exact abort_lands rfl h.fair

theorem closeQuietly_lands (h : InStep s) : Lands (closeQuietly s) := by
  obtain ⟨after, hfinal, hsteady, hcall⟩ := closeQuietly_line h.fair
  rw [hcall]
  exact .of_final hfinal hsteady

theorem close_lands (h : InStep s) : Lands (close s) := by
  obtain ⟨after, hfinal, hsteady, hcall | ⟨e, hcall⟩⟩ := close_line h.fair
  · rw [hcall]
    exact .of_final hfinal hsteady
  · rw [hcall]
    exact .of_final hfinal hsteady

theorem fetchAll_line (turns : Nat) (h : InStep s) : Lands (fetchAll read turns s) := by
  induction turns generalizing s with
  | zero => exact h
  | succ turns ih =>
    refine (advance_line h).bind fun turn after hafter => ?_
    cases turn with
    | row row =>
      refine (convert_line read row hafter).bind fun a after hafter => ?_
      exact (ih hafter).bind fun as after hafter => hafter
    | finished => exact hafter
    | fetched => exact ih hafter

theorem fetchFirst?_line (turns : Nat) (h : InStep s) : Lands (fetchFirst? read turns s) := by
  refine (nextRow_line turns h).bind fun row after hafter => ?_
  cases row with
  | none => exact hafter
  | some row =>
    refine (convert_line read row hafter).bind fun a after hafter => ?_
    exact (closeQuietly_lands hafter).bind fun _ after hafter => hafter

theorem fetchOne_line (turns : Nat) (h : InStep s) : Lands (fetchOne read turns s) := by
  refine (fetchFirst?_line read turns h).bind fun a after hafter => ?_
  cases a with
  | none => exact hafter
  | some a => exact hafter

end Calls

/-! ## Dropping -/

theorem drop_of_isOver (h : s.cursor.isOver = true) : s.cursor.drop s.client = s.client :=
  if_pos h

theorem drop_of_not_isOver (h : s.cursor.isOver = false) :
    s.cursor.drop s.client =
      { connection :=
          { s.client.connection with
            pendingClose := s.client.connection.pendingClose ++ [s.cursor.id] }
        journal :=
          { s.client.journal.add (.cursorDropped s.cursor.id) with
            leakedCursors := s.client.journal.leakedCursors + 1 } } :=
  if_neg (by rw [← isOver, h]; exact Bool.false_ne_true)

/-- A cursor that is dropped while its server holds it is deferred to close, and no other is. -/
theorem InStep.drop (h : InStep s) : Settled (s.cursor.drop s.client) := by
  have hfair := h.fair
  cases hover : s.cursor.isOver with
  | true =>
    rw [Fair, hover] at hfair
    rw [drop_of_isOver hover]
    exact hfair.settled
  | false =>
    rw [Fair, hover] at hfair
    rw [drop_of_not_isOver hover]
    refine ⟨⟨hfair.serving.ready, hfair.serving.quiet⟩, hfair.sound, ?_⟩
    have hids : (ledger s.client).ids = [s.cursor.id] := by
      rw [Ledger.ids, hfair.held_eq]
      rfl
    change (ledger s.client).ids.Perm (s.client.connection.pendingClose ++ [s.cursor.id])
    rw [hids, hfair.pendingClose_eq]
    exact .refl _

/-- A call that uses a cursor up leaves nothing open that is not deferred to close. -/
theorem consume_line {α : Type} {call : CursorCall (Line server) α} {cursor : Cursor}
    (h : Lands (call ⟨cursor, client⟩)) : Settled (client.after (consume call cursor)) := by
  unfold Client.after consume
  cases hcall : call ⟨cursor, client⟩ with
  | ok a after =>
    rw [hcall] at h
    exact InStep.drop h
  | error stop after =>
    rw [hcall] at h
    exact InStep.drop h

end Cursor

namespace Query

/-! ## Opening -/

/-- The last octet of the request for a statement says whether names are asked for. -/
theorem getLast?_payload {q : SqlFieldsQuery} {pageSize : Int32} {payload : Bytes}
    (h : q.payload pageSize = .ok payload) :
    payload.getLast? = some (if q.includeFieldNames then 1 else 0) := by
  obtain ⟨schema, -, h⟩ := Except.bind_eq_ok h
  obtain ⟨sql, -, h⟩ := Except.bind_eq_ok h
  obtain ⟨args, -, h⟩ := Except.bind_eq_ok h
  cases h
  exact List.getLast?_concat

/-- The columns that a server sends are the ones that the query takes. -/
theorem readColumns_takes {q : Query} {client : Client (Line server)} {payload columns : Bytes}
    {width : Nat} (hpayload : q.payload client.connection.config.pageSize = .ok payload)
    (h : HasColumns (q.openRequest client payload) columns width) :
    ∃ cs : Columns, cs.width = width ∧ Reader.Takes q.readColumns columns cs := by
  cases q with
  | sql q | scan q =>
    obtain ⟨rfl, rfl⟩ : columns = [] ∧ width = 2 := h
    exact ⟨entryColumns, rfl, .pure entryColumns⟩
  | sqlFields q =>
    have hop : (openRequest (.sqlFields q) client payload).op = .querySqlFields := rfl
    rw [HasColumns, if_pos hop] at h
    obtain ⟨names, hlength, hle, rfl⟩ := h
    have hlast : (openRequest (.sqlFields q) client payload).payload.getLast? =
        some (if q.includeFieldNames then 1 else 0) := getLast?_payload hpayload
    have hnames : Reader.Takes (Reader.replicate names.length WireValue.readNullableText)
        (names.flatMap TaggedText.octets) (names.map TaggedText.text) :=
      Reader.takes_replicate_map fun name _ => name.takes
    rw [hlast]
    cases hinclude : q.includeFieldNames with
    | true =>
      refine ⟨⟨(names.map TaggedText.text).map (·.getD ""), width⟩, rfl, ?_⟩
      refine (Reader.takes_count hle).bind ?_
      rw [hinclude]
      rw [hlength] at hnames
      exact hnames.bind_nil (.pure _)
    | false =>
      refine ⟨⟨[], width⟩, rfl, ?_⟩
      refine (Reader.takes_count hle).bind ?_
      rw [hinclude]
      exact .pure _

theorem openOp_mem (q : Query) : q.openOp ∈ Operation.opening := by
  cases q <;> simp [openOp, Operation.opening]

theorem pageOp_mem (q : Query) : q.pageOp ∈ Operation.paging := by
  cases q <;> simp [pageOp, Operation.paging]

theorem pageOp_openOp (q : Query) : Ledger.pageOp q.openOp = q.pageOp := by
  cases q <;> rfl

/-- A request for a cursor gives a cursor that is in step with the server, or none. -/
theorem openCursor_line (q : Query) (h : Settled client) :
    (∃ cursor after, q.openCursor client = .ok cursor after ∧ Cursor.InStep ⟨cursor, after⟩) ∨
      ∃ stop after, q.openCursor client = .error stop after ∧ Settled after := by
  have htook : Settled (tookId client) := ⟨⟨h.serving.ready, h.serving.quiet⟩, h.sound, h.held_perm⟩
  cases hpayload : q.payload client.connection.config.pageSize with
  | error e => exact .inr ⟨_, _, openCursor_of_unwritable hpayload, htook⟩
  | ok payload =>
    obtain ⟨clear, hclosed, hclear⟩ := htook.closePending
    have hsend : sendAndReceive (q.openRequest client payload) (tookId client) =
        roundTrip (q.openRequest client payload) clear := by
      rw [sendAndReceive_eq, bind_apply, hclosed]
    have hop : (q.openRequest client payload).op ≠ .resourceClose :=
      Operation.ne_resourceClose_of_opening q.openOp_mem
    cases hframe : (q.openRequest client payload).frame with
    | error e =>
      have hcall := roundTrip_of_unwritable hclear.serving.ready hframe
      exact .inr ⟨_, _, openCursor_of_failed hpayload (hsend.trans hcall), hclear.settled⟩
    | ok octets =>
      obtain ⟨after, hasked, hanswered, hrefused⟩ := roundTrip_line hclear.serving hframe
      have hpending := hasked.pendingClose_eq.trans hclear.pendingClose_eq
      rcases server.answer_open (past clear) (q.openRequest client payload) q.openOp_mem with
        hrefusal | ⟨id, columns, first, hopened, hfresh, hcolumns⟩
      · obtain ⟨e, -, hcall⟩ := hrefused hrefusal
        have hledger : ledger after = ledger clear :=
          hasked.ledger_eq.trans (Ledger.record_of_isRefusal hop hrefusal)
        have hsteady : Steady after [] :=
          ⟨hasked.serving, hledger ▸ hclear.sound, hledger ▸ hclear.held_eq, hpending⟩
        exact .inr ⟨_, _, openCursor_of_failed hpayload (hsend.trans hcall), hsteady.settled⟩
      · have hcall := hanswered (by rw [hopened]; rfl)
        rw [hopened] at hcall
        obtain ⟨cs, hwidth, htakes⟩ := readColumns_takes hpayload hcolumns
        have hid : Reader.word Int64 (Word.encode id ++ (columns ++ first.octets)) =
            .ok id (columns ++ first.octets) := Reader.takes_word id _
        let fresh : Cursor := { id, pageOp := q.pageOp, columns := cs }
        have hload : fresh.load first.octets = .ok (fresh.withPage first) :=
          Cursor.load_octets hwidth.symm
        have hledger : ledger after =
            (ledger clear).opened ⟨id, q.pageOp, first.width⟩ first.more := by
          rw [hasked.ledger_eq, hopened, Ledger.record_opened hop, ← pageOp_openOp]
          rfl
        have hsteady : Steady after (if first.more = 0 then [] else [fresh.holding]) := by
          refine ⟨hasked.serving, hledger ▸ hclear.sound.opened hfresh q.pageOp_mem, ?_, hpending⟩
          rw [hledger, Ledger.opened, hclear.held_eq, ← hwidth]
          rfl
        refine .inl ⟨fresh.withPage first, after, ?_, .withPage hwidth.symm hsteady⟩
        rw [openCursor_of_response hpayload (hsend.trans hcall) hid (htakes _)]
        exact Cursor.takeOver_of_load hload

end Query

end ThinClient
