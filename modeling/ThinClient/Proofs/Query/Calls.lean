import ThinClient.Proofs.Connection.Calls
import ThinClient.Query.Basic

/-!
# Calls of a cursor

What the calls of a cursor do, case by case, over any peer. Each lemma takes what the calls inside
gave, so that a proof about cursors follows the turns that a cursor takes and never opens a call.
-/

namespace ThinClient

namespace Cursor

variable {σ : Type} [Peer σ] {s after : OpenCursor σ} {client : Client σ} {e : Error}

/-! ## Closing -/

theorem close_of_final (h : s.cursor.state.isFinal = true) : close s = .ok () s := by
  unfold close
  rw [bind_apply]
  simp only [get, getThe, MonadStateOf.get, EStateM.get, h, if_true]
  rfl

/-- A cursor that the server has released is only marked. -/
theorem close_of_released (h : s.cursor.state.isFinal = false)
    (hreleased : s.cursor.isReleased = true) :
    close s = .ok () { s with
      cursor := { s.cursor with page := [], remaining := 0, state := .exhausted } } := by
  unfold close
  rw [bind_apply]
  simp only [get, getThe, MonadStateOf.get, EStateM.get, h, hreleased, if_true]
  rfl

theorem close_of_open (h : s.cursor.state.isFinal = false)
    (hopen : s.cursor.isReleased = false) :
    close s = onClient (Connection.closeResource s.cursor.id) { s with
      cursor := { s.cursor with page := [], remaining := 0, state := .closed } } := by
  unfold close
  rw [bind_apply]
  simp only [get, getThe, MonadStateOf.get, EStateM.get, h, hopen]
  rfl

/-- A close asks the server to release the cursor, or touches the cursor alone. -/
theorem close_eq (s : OpenCursor σ) :
    ∃ cursor : Cursor, close s = .ok () { s with cursor } ∨
      close s = onClient (Connection.closeResource s.cursor.id) { s with cursor } := by
  cases hfinal : s.cursor.state.isFinal with
  | true => exact ⟨_, .inl (close_of_final hfinal)⟩
  | false =>
    cases hreleased : s.cursor.isReleased with
    | true => exact ⟨_, .inl (close_of_released hfinal hreleased)⟩
    | false => exact ⟨_, .inr (close_of_open hfinal hreleased)⟩

theorem closeQuietly_of_ok (h : close s = .ok () after) : closeQuietly s = .ok () after := by
  simp only [closeQuietly, h]

theorem closeQuietly_of_failed (h : close s = .error (.failed e) after) :
    closeQuietly s = .ok () { after with client := { after.client with
      journal := after.client.journal.add (.cursorCloseFailed after.cursor.id e) } } := by
  simp only [closeQuietly, h]

theorem abort_of_closed {α : Type} (he : e.isConnectionError = false)
    (h : closeQuietly s = .ok () after) :
    abort (α := α) e s = .error (.failed e) after := by
  unfold abort
  rw [he, if_neg Bool.false_ne_true, bind_apply]
  simp only [h]
  rfl

theorem closeQuietly_of_cancelled (h : close s = .error .cancelled after) :
    closeQuietly s = .error .cancelled after := by
  simp only [closeQuietly, h]

theorem closeQuietly_ne_failed (s : OpenCursor σ) (cause : Error) (after : OpenCursor σ) :
    closeQuietly s ≠ .error (.failed cause) after := by
  unfold closeQuietly
  split
  next => simp
  next hother => exact fun h => hother cause after h

theorem abort_of_connectionError {α : Type} (he : e.isConnectionError = true) :
    abort (α := α) e s =
      .error (.failed e) { s with cursor := { s.cursor with state := .closed } } := by
  unfold abort
  rw [if_pos he]
  rfl

theorem abort_of_cancelled {α : Type} (he : e.isConnectionError = false)
    (h : closeQuietly s = .error .cancelled after) :
    abort (α := α) e s = .error .cancelled after := by
  unfold abort
  rw [he, if_neg Bool.false_ne_true, bind_apply]
  simp only [h]

/-- A cursor that is closed after a failure passes it on, unless its close is given up. -/
theorem abort_stops (α : Type) (e : Error) (s : OpenCursor σ) :
    ∃ stop after, abort (α := α) e s = .error stop after ∧
      (stop = .failed e ∨ stop = .cancelled) := by
  cases he : e.isConnectionError with
  | true => exact ⟨_, _, abort_of_connectionError he, .inl rfl⟩
  | false =>
    cases hclose : closeQuietly s with
    | ok _ after => exact ⟨_, _, abort_of_closed he hclose, .inl rfl⟩
    | error stop after =>
      cases stop with
      | failed cause => exact absurd hclose (closeQuietly_ne_failed s cause after)
      | cancelled => exact ⟨_, _, abort_of_cancelled he hclose, .inr rfl⟩

omit [Peer σ] in
theorem drop_of_final (h : s.cursor.state.isFinal = true) :
    s.cursor.drop s.client = s.client := by
  simp only [drop, h, Bool.true_or, if_true]

/-! ## Pages -/

theorem loadPage_of_ok {page : Bytes} {cursor : Cursor} (h : s.cursor.load page = .ok cursor) :
    loadPage page s = .ok () { s with cursor } := by
  unfold loadPage
  rw [bind_apply]
  simp only [get, getThe, MonadStateOf.get, EStateM.get, h]
  rfl

theorem loadPage_of_error {page : Bytes} {cause : DecodeError}
    (h : s.cursor.load page = .error cause) : loadPage page s = abort cause s := by
  unfold loadPage
  rw [bind_apply]
  simp only [get, getThe, MonadStateOf.get, EStateM.get, h]

/-- A page that is taken has as many octets behind its count as the count asks for. -/
theorem load_eq_ok {c cursor : Cursor} {page : Bytes} (h : c.load page = .ok cursor) :
    ∃ rows rest, Reader.length page = .ok rows rest ∧ rows * c.columns.width ≤ rest.length ∧
      cursor = { c with page := rest, remaining := rows, state := .hasBufferedRows } := by
  unfold load at h
  split at h
  next => cases h
  next rows rest hlength =>
    dsimp only at h
    split at h
    next => cases h
    next hroom =>
      cases h
      exact ⟨rows, rest, hlength, Nat.le_of_not_lt hroom, rfl⟩

theorem load_keeps {c cursor : Cursor} {page : Bytes} (h : c.load page = .ok cursor) :
    cursor.id = c.id ∧ cursor.pageOp = c.pageOp := by
  obtain ⟨rows, rest, -, -, rfl⟩ := load_eq_ok h
  exact ⟨rfl, rfl⟩

/-- The cursor while it waits for a page. -/
def fetching (c : Cursor) : Cursor :=
  { c with state := .fetchingNextPage }

/-- The request for the next page, with the next correlation id. -/
def pageRequest (s : OpenCursor σ) : Request :=
  Request.putWord ⟨s.cursor.pageOp, s.client.connection.ids.next.1, []⟩ s.cursor.id

theorem fetchPage_of_response {response : Response}
    (h : Connection.sendAndReceive (pageRequest s) (Connection.tookId s.client) =
      .ok response client) :
    fetchPage s = loadPage response.payload ⟨fetching s.cursor, client⟩ := by
  change (orAbort (Connection.sendAndReceive (pageRequest s)) >>=
    fun response => loadPage response.payload) ⟨fetching s.cursor, Connection.tookId s.client⟩ = _
  rw [bind_apply]
  simp only [orAbort, onClient, h]

theorem fetchPage_of_failed
    (h : Connection.sendAndReceive (pageRequest s) (Connection.tookId s.client) =
      .error (.failed e) client)
    (habort : abort (α := Response) e ⟨fetching s.cursor, client⟩ = .error (.failed e) after) :
    fetchPage s = .error (.failed e) after := by
  change (orAbort (Connection.sendAndReceive (pageRequest s)) >>=
    fun response => loadPage response.payload) ⟨fetching s.cursor, Connection.tookId s.client⟩ = _
  rw [bind_apply]
  simp only [orAbort, onClient, h, habort]

/-! ## Rows -/

theorem decodeRow_of_ok {values : List WireValue} {page : Bytes}
    (h : Reader.replicate s.cursor.columns.width WireValue.decode s.cursor.page =
      .ok values page) :
    decodeRow s = .ok ⟨s.cursor.columns.names, values⟩ { s with
      cursor := { s.cursor with page, remaining := s.cursor.remaining - 1 } } := by
  unfold decodeRow
  rw [bind_apply]
  simp only [get, getThe, MonadStateOf.get, EStateM.get, h]
  rfl

theorem decodeRow_of_error {cause : DecodeError} {page : Bytes}
    (h : Reader.replicate s.cursor.columns.width WireValue.decode s.cursor.page =
      .error cause page) :
    decodeRow s = abort cause { s with cursor := { s.cursor with page } } := by
  unfold decodeRow
  rw [bind_apply]
  simp only [get, getThe, MonadStateOf.get, EStateM.get, h]
  rfl

/-! ## Turns -/

theorem advance_of_final (h : s.cursor.state.isFinal = true) : advance s = .ok .finished s := by
  unfold advance
  rw [bind_apply]
  simp only [get, getThe, MonadStateOf.get, EStateM.get]
  cases hstate : s.cursor.state <;> simp [hstate, CursorState.isFinal] at h ⊢ <;> rfl

theorem advance_of_waiting
    (h : s.cursor.state = .created ∨ s.cursor.state = .fetchingNextPage) :
    advance s = ((fun _ => .fetched) <$> fetchPage) s := by
  unfold advance
  rw [bind_apply]
  simp only [get, getThe, MonadStateOf.get, EStateM.get]
  rcases h with h | h <;> simp only [h] <;> rfl

section Buffered

variable (h : s.cursor.state = .hasBufferedRows)

include h

theorem advance_of_rows (hrows : 0 < s.cursor.remaining) :
    advance s = (Turn.row <$> decodeRow) s := by
  unfold advance
  rw [bind_apply]
  simp only [get, getThe, MonadStateOf.get, EStateM.get, h, hrows, if_true]
  rfl

theorem advance_of_empty (hrows : s.cursor.remaining = 0) (hpage : s.cursor.page = []) :
    advance s = abort (DecodeError.truncated 1 0) s := by
  obtain ⟨⟨id, pageOp, columns, page, remaining, state⟩, client⟩ := s
  cases h
  cases hrows
  cases hpage
  rfl

/-- What is left of a page after its rows says whether there are more, and the next page comes in
its place. -/
theorem advance_of_rest {more : UInt8} {rest : Bytes} (hrows : s.cursor.remaining = 0)
    (hpage : s.cursor.page = more :: rest) :
    advance s =
      if more = 0 then
        .ok .finished { s with cursor := { s.cursor with page := [], state := .exhausted } }
      else
        ((fun _ => .fetched) <$> fetchPage)
          { s with cursor := { s.cursor with page := rest } } := by
  obtain ⟨⟨id, pageOp, columns, page, remaining, state⟩, client⟩ := s
  cases h
  cases hrows
  cases hpage
  unfold advance
  rw [bind_apply]
  simp only [get, getThe, MonadStateOf.get, EStateM.get, Nat.lt_irrefl, if_false]
  split <;> rfl

theorem advance_of_last (hrows : s.cursor.remaining = 0) (hpage : s.cursor.page = [0]) :
    advance s = .ok .finished { s with
      cursor := { s.cursor with page := [], state := .exhausted } } := by
  rw [advance_of_rest h hrows hpage, if_pos rfl]

theorem advance_of_more {more : UInt8} (hrows : s.cursor.remaining = 0)
    (hpage : s.cursor.page = [more]) (hmore : more ≠ 0) :
    advance s = ((fun _ => .fetched) <$> fetchPage)
      { s with cursor := { s.cursor with page := [] } } := by
  rw [advance_of_rest h hrows hpage, if_neg hmore]

end Buffered

/-! ## The next row -/

section NextRow

variable {t : OpenCursor σ} {row : Row}

theorem nextRow_of_row (h : advance s = .ok (.row row) t) (turns : Nat) :
    nextRow (turns + 1) s = .ok (some row) t := by
  rw [nextRow, bind_apply, h]
  rfl

theorem nextRow_of_fetched (h : advance s = .ok .fetched t) (turns : Nat) :
    nextRow (turns + 1) s = nextRow turns t := by
  rw [nextRow, bind_apply, h]

theorem nextRow_of_finished (h : advance s = .ok .finished t) (turns : Nat) :
    nextRow (turns + 1) s = .ok none t := by
  rw [nextRow, bind_apply, h]
  rfl

variable {α : Type} {read : Row → Except DecodeError α} {turns : Nat} {a : α}

theorem fetchFirst?_of_none (h : nextRow turns s = .ok none t) :
    fetchFirst? read turns s = .ok none t := by
  rw [fetchFirst?, bind_apply, h]
  rfl

theorem fetchFirst?_of_row (h : nextRow turns s = .ok (some row) t) (hread : read row = .ok a)
    (hclose : closeQuietly t = .ok () after) : fetchFirst? read turns s = .ok (some a) after := by
  have hconvert : convert read row t = .ok a t := by
    simp only [convert, hread]
    rfl
  rw [fetchFirst?, bind_apply, h]
  dsimp only
  rw [bind_apply, hconvert]
  dsimp only
  rw [bind_apply, hclose]
  rfl

theorem fetchOne_of_none (h : fetchFirst? read turns s = .ok none t) :
    fetchOne read turns s = .error (.failed { kind := .rowNotFound }) t := by
  rw [fetchOne, bind_apply, h]
  rfl

theorem fetchOne_of_some (h : fetchFirst? read turns s = .ok (some a) t) :
    fetchOne read turns s = .ok a t := by
  rw [fetchOne, bind_apply, h]
  rfl

end NextRow

/-! ## Draining -/

section Drain

variable {α : Type} {read : Row → Except DecodeError α}

theorem convert_eq_ok {row : Row} {a : α} (h : convert read row s = .ok a after) :
    read row = .ok a ∧ after = s := by
  unfold convert at h
  cases hread : read row with
  | ok a' =>
    rw [hread] at h
    cases h
    exact ⟨rfl, rfl⟩
  | error cause =>
    rw [hread] at h
    obtain ⟨stop, t, habort, -⟩ := abort_stops α cause s
    cases habort.symm.trans h

/-- What the first turn of a drain has come to that gives all rows. -/
inductive Drains (read : Row → Except DecodeError α) (turns : Nat) (s : OpenCursor σ) :
    List α → OpenCursor σ → Prop
  | row {row : Row} {a : α} {others : List α} {t after : OpenCursor σ}
    (hturn : advance s = .ok (.row row) t) (hread : read row = .ok a)
    (hrest : fetchAll read turns t = .ok others after) : Drains read turns s (a :: others) after
  | fetched {as : List α} {t after : OpenCursor σ} (hturn : advance s = .ok .fetched t)
    (hrest : fetchAll read turns t = .ok as after) : Drains read turns s as after
  | finished {after : OpenCursor σ} (hturn : advance s = .ok .finished after) :
    Drains read turns s [] after

theorem fetchAll_drains {turns : Nat} {as : List α}
    (h : fetchAll read (turns + 1) s = .ok as after) : Drains read turns s as after := by
  rw [fetchAll, bind_apply] at h
  cases hturn : advance s with
  | error stop t =>
    rw [hturn] at h
    cases h
  | ok turn t =>
    rw [hturn] at h
    cases turn with
    | row row =>
      dsimp only at h
      rw [bind_apply] at h
      split at h
      next a t' hconvert =>
        obtain ⟨hread, rfl⟩ := convert_eq_ok hconvert
        rw [bind_apply] at h
        split at h
        next others last hothers =>
          cases h
          exact .row hturn hread hothers
        next => cases h
      next => cases h
    | finished =>
      cases h
      exact .finished hturn
    | fetched => exact .fetched hturn h

end Drain

/-! ## Opening -/

/-- A cursor whose first page can be taken is there. -/
theorem takeOver_of_load {id : Int64} {pageOp : Operation} {columns : Columns} {page : Bytes}
    {cursor : Cursor}
    (h : ({ id, pageOp, columns } : Cursor).load page = .ok cursor) :
    takeOver id pageOp (.ok columns) page client = .ok cursor client := by
  have hload := loadPage_of_ok (s := ⟨{ id, pageOp, columns }, client⟩) h
  unfold takeOver
  dsimp only
  rw [bind_apply]
  simp only [update, modify, modifyGet, MonadStateOf.modifyGet, EStateM.modifyGet]
  rw [bind_apply, hload]
  rfl

/-- A cursor is there, and nothing has happened to its client, or a page or a column that cannot be
read has been the end of it. -/
theorem takeOver_cases (id : Int64) (pageOp : Operation) (columns : Except DecodeError Columns)
    (page : Bytes) (client : Client σ) :
    (∃ (found : Columns) (cursor : Cursor), columns = .ok found ∧
        ({ id, pageOp, columns := found } : Cursor).load page = .ok cursor ∧
        takeOver id pageOp columns page client = .ok cursor client) ∨
      ∃ (α : Type) (start : Cursor) (cause : DecodeError) (stop : Stop Error) (t : OpenCursor σ),
        start.id = id ∧ start.pageOp = pageOp ∧
        abort (α := α) cause ⟨start, client⟩ = .error stop t ∧
        takeOver id pageOp columns page client = .error stop (t.cursor.drop t.client) := by
  cases columns with
  | error cause =>
    obtain ⟨stop, t, habort, -⟩ :=
      abort_stops Cursor cause ⟨{ id, pageOp, columns := ⟨[], 0⟩ }, client⟩
    refine .inr ⟨_, _, cause, stop, t, rfl, rfl, habort, ?_⟩
    unfold takeOver
    dsimp only
    rw [habort]
  | ok columns =>
    cases hload : ({ id, pageOp, columns } : Cursor).load page with
    | ok cursor => exact .inl ⟨columns, cursor, rfl, hload, takeOver_of_load hload⟩
    | error cause =>
      obtain ⟨stop, t, habort, -⟩ := abort_stops Unit cause ⟨{ id, pageOp, columns }, client⟩
      have hpage := loadPage_of_error (s := ⟨{ id, pageOp, columns }, client⟩) hload
      refine .inr ⟨_, _, cause, stop, t, rfl, rfl, habort, ?_⟩
      unfold takeOver
      dsimp only
      rw [bind_apply]
      simp only [update, modify, modifyGet, MonadStateOf.modifyGet, EStateM.modifyGet]
      rw [bind_apply, hpage, habort]

end Cursor

namespace Query

open Connection

variable {σ : Type} [Peer σ] {client after : Client σ} {q : Query} {payload : Bytes}

/-- The request that opens a cursor, with the next correlation id. -/
def openRequest (q : Query) (client : Client σ) (payload : Bytes) : Request :=
  Request.append ⟨q.openOp, client.connection.ids.next.1, []⟩ payload

/-- Takes over the cursor that a response tells of. -/
def takeFrom (q : Query) (response : Response) : Call σ Cursor :=
  match Reader.word Int64 response.payload with
  | .error e _ => fail e
  | .ok id rest =>
    match q.readColumns rest with
    | .ok columns page => Cursor.takeOver id q.pageOp (.ok columns) page
    | .error e page => Cursor.takeOver id q.pageOp (.error e) page

theorem takeFrom_eq_ok {response : Response} {cursor : Cursor}
    (h : q.takeFrom response client = .ok cursor after) :
    ∃ (id : Int64) (rest page : Bytes) (columns : Columns),
      Reader.word Int64 response.payload = .ok id rest ∧ q.readColumns rest = .ok columns page ∧
      ({ id, pageOp := q.pageOp, columns } : Cursor).load page = .ok cursor ∧ after = client := by
  have htaken {id : Int64} {found : Except DecodeError Columns} {page : Bytes}
      (h : Cursor.takeOver id q.pageOp found page client = .ok cursor after) :
      ∃ columns, found = .ok columns ∧
        ({ id, pageOp := q.pageOp, columns } : Cursor).load page = .ok cursor ∧ after = client := by
    rcases Cursor.takeOver_cases id q.pageOp found page client with
      ⟨columns, cursor', hfound, hload, hcall⟩ | ⟨_, _, _, stop, t, -, -, -, hcall⟩
    · rw [hcall] at h
      cases h
      exact ⟨columns, hfound, hload, rfl⟩
    · rw [hcall] at h
      cases h
  unfold takeFrom at h
  cases hid : Reader.word Int64 response.payload with
  | error e rest =>
    rw [hid] at h
    cases h
  | ok id rest =>
    rw [hid] at h
    dsimp only at h
    cases hcolumns : q.readColumns rest with
    | ok columns page =>
      rw [hcolumns] at h
      obtain ⟨_, hfound, hload, hafter⟩ := htaken h
      cases hfound
      exact ⟨id, rest, page, columns, rfl, hcolumns, hload, hafter⟩
    | error e page =>
      rw [hcolumns] at h
      obtain ⟨_, hfound, -⟩ := htaken h
      cases hfound

theorem openCursor_of_unwritable {e : EncodeError}
    (h : q.payload client.connection.config.pageSize = .error e) :
    q.openCursor client = .error (.failed e) (tookId client) := by
  have htook : q.payload (tookId client).connection.config.pageSize = .error e := h
  unfold openCursor
  rw [bind_apply, beginRequest_eq]
  dsimp only
  rw [bind_apply]
  simp only [get, getThe, MonadStateOf.get, EStateM.get, htook]
  rfl

section Written

variable (hpayload : q.payload client.connection.config.pageSize = .ok payload)

include hpayload

theorem openCursor_eq :
    q.openCursor client =
      (sendAndReceive (q.openRequest client payload) >>= q.takeFrom) (tookId client) := by
  have htook : q.payload (tookId client).connection.config.pageSize = .ok payload := hpayload
  unfold openCursor
  rw [bind_apply, beginRequest_eq]
  dsimp only
  rw [bind_apply]
  simp only [get, getThe, MonadStateOf.get, EStateM.get, htook]
  rfl

theorem openCursor_of_failed {stop : Stop Error}
    (h : sendAndReceive (q.openRequest client payload) (tookId client) = .error stop after) :
    q.openCursor client = .error stop after := by
  rw [openCursor_eq hpayload, bind_apply, h]

theorem openCursor_of_response {response : Response} {id : Int64} {rest page : Bytes}
    {columns : Columns}
    (h : sendAndReceive (q.openRequest client payload) (tookId client) = .ok response after)
    (hid : Reader.word Int64 response.payload = .ok id rest)
    (hcolumns : q.readColumns rest = .ok columns page) :
    q.openCursor client = Cursor.takeOver id q.pageOp (.ok columns) page after := by
  rw [openCursor_eq hpayload, bind_apply, h]
  simp only [takeFrom, hid, hcolumns]

end Written

/-- A cursor that is there has been taken from a response. -/
theorem openCursor_eq_ok {cursor : Cursor} (h : q.openCursor client = .ok cursor after) :
    ∃ (payload : Bytes) (response : Response),
      q.payload client.connection.config.pageSize = .ok payload ∧
      sendAndReceive (q.openRequest client payload) (tookId client) = .ok response after ∧
      q.takeFrom response after = .ok cursor after := by
  cases hpayload : q.payload client.connection.config.pageSize with
  | error e =>
    rw [openCursor_of_unwritable hpayload] at h
    cases h
  | ok payload =>
    rw [openCursor_eq hpayload, bind_apply] at h
    split at h
    next response opened hsend =>
      obtain ⟨_, _, _, _, -, -, -, rfl⟩ := takeFrom_eq_ok h
      exact ⟨payload, response, rfl, hsend, h⟩
    next => cases h

/-! ## Using a cursor up -/

section Consume

variable {α : Type} {call : CursorCall σ α} {cursor : Cursor} {opened : Client σ} {a : α}
  {t : OpenCursor σ}

/-- A call that leaves nothing to drop. -/
theorem consume_of_ok (hopen : q.openCursor client = .ok cursor opened)
    (h : call ⟨cursor, opened⟩ = .ok a t) (hfinal : t.cursor.state.isFinal = true) :
    (do Cursor.consume call (← q.openCursor)) client = .ok a t.client := by
  rw [bind_apply, hopen]
  simp only [Cursor.consume, h, Cursor.drop_of_final hfinal]

theorem consume_of_error {stop : Stop Error} (hopen : q.openCursor client = .ok cursor opened)
    (h : call ⟨cursor, opened⟩ = .error stop t) (hfinal : t.cursor.state.isFinal = true) :
    (do Cursor.consume call (← q.openCursor)) client = .error stop t.client := by
  rw [bind_apply, hopen]
  simp only [Cursor.consume, h, Cursor.drop_of_final hfinal]

theorem consume_eq_ok (h : (do Cursor.consume call (← q.openCursor)) client = .ok a after) :
    ∃ cursor opened t, q.openCursor client = .ok cursor opened ∧
      call ⟨cursor, opened⟩ = .ok a t ∧ after = t.cursor.drop t.client := by
  rw [bind_apply] at h
  split at h
  next cursor opened hopen =>
    unfold Cursor.consume at h
    split at h
    next t hcall =>
      cases h
      exact ⟨cursor, opened, t, hopen, hcall, rfl⟩
    next => cases h
  next => cases h

end Consume

end Query

end ThinClient
