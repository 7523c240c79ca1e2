import ThinClient.Proofs.Connection.Trips
import ThinClient.Proofs.Query.Sessions

/-!
# Pages, one after the other

The rows of a result come in pages, cut anywhere, and the cursor takes them off the page that it
has: a counter says how many are left, the octet behind them whether there is another page.

* `Server.Plays` is a server that gives certain answers to certain requests, one after the other,
  and `Cursor.pageRounds` are the requests for the pages of a cursor with the pages as answers.
* `Cursor.Amid` is a cursor on its way: rows of a page are left, other pages are upcoming, and what
  has been asked together with what will be is always the same. `Amid.row`, `Amid.fetch` and
  `Amid.last` are the three things that a turn can do.
* `Cursor.Due` forgets where the pages are cut, so that `Cursor.nextRow_due` and
  `Cursor.fetchAll_due` speak about rows only.
* `Query.openCursor_pages`: **however the rows are cut into pages, empty ones among them, the
  cursor gives these rows and then none**, every page but the first is asked for once, and nothing
  is closed.
-/

namespace ThinClient

open Connection

variable {server : Server}

/-! ## What is said -/

/-- Every page but the last says that there are more; `more` is said before them. -/
def Page.Chained : (more : UInt8) → List Page → Prop
  | more, [] => more = 0
  | more, page :: pages => more ≠ 0 ∧ Chained page.more pages

/-- The octets of rows are these values. -/
def Page.Reads (rows : List (List TaggedValue)) (values : List (List WireValue)) : Prop :=
  List.Forall₂ (List.Forall₂ fun value v => WireValue.decode value.octets = .ok v []) rows values

/-- The server gives these answers if it is asked these questions one after the other, in this
past. -/
def Server.Plays (server : Server) : (past rounds : List Round) → Prop
  | _, [] => True
  | past, round :: rounds =>
    server.answer past round.request = round.answer ∧ server.Plays (past ++ [round]) rounds

/-- The requests for pages of a cursor, with the correlation ids that they take, and the pages. -/
def Cursor.pageRounds (pageOp : Operation) (id : Int64) : IdSource → List Page → List Round
  | _, [] => []
  | ids, page :: pages =>
    ⟨⟨pageOp, ids.next.1, Word.encode id⟩, .page page⟩ :: pageRounds pageOp id ids.next.2 pages

/-! ## Exchanges with a server that plays -/

/-- A client over a line between two calls, with nothing deferred. -/
structure Connection.Free (client : Client (Line server)) : Prop where
  serving : Serving client
  pendingClose_eq : client.connection.pendingClose = []

/-- A request that is answered with the status 0 is a round behind the deferred closes, and takes no
correlation id itself. -/
theorem Connection.sendAndReceive_clear {client clear : Client (Line server)} (h : Free clear)
    (hclear : closePending client = .ok () clear) {request : Request} {octets : Bytes}
    (hframe : request.frame = .ok octets)
    (hstatus : (server.answer (past clear) request).status = 0) :
    ∃ after, sendAndReceive request client =
        .ok ⟨request.op, request.id, (server.answer (past clear) request).payload⟩ after ∧
      Free after ∧
      past after = past clear ++ [⟨request, server.answer (past clear) request⟩] ∧
      after.connection.ids = clear.connection.ids := by
  obtain ⟨after, hasked, hanswered, -⟩ := roundTrip_line h.serving hframe
  have hround := hanswered hstatus
  refine ⟨after, (sendAndReceive_of_pending hclear request).trans hround,
    ⟨hasked.serving, hasked.pendingClose_eq.trans h.pendingClose_eq⟩, hasked.past_eq, ?_⟩
  obtain ⟨stream, phase, hafter⟩ := after_roundTrip request clear
  rw [Client.after_of_ok hround] at hafter
  rw [hafter]
  rfl

theorem Connection.sendAndReceive_free {client : Client (Line server)} (h : Free client)
    {request : Request} {octets : Bytes} (hframe : request.frame = .ok octets)
    (hstatus : (server.answer (past client) request).status = 0) :
    ∃ after, sendAndReceive request client =
        .ok ⟨request.op, request.id, (server.answer (past client) request).payload⟩ after ∧
      Free after ∧
      past after = past client ++ [⟨request, server.answer (past client) request⟩] ∧
      after.connection.ids = client.connection.ids :=
  sendAndReceive_clear h (closePending_nil h.pendingClose_eq) hframe hstatus

namespace Cursor

variable {s : OpenCursor (Line server)} {columns : Columns} {script : List Round}
  {left : List (List TaggedValue)} {upcoming : List Page}

theorem fetchPage_free (h : Free s.client) {page : Page}
    (hanswer : server.answer (past s.client) (pageRequest s) = .page page)
    (hwidth : page.width = s.cursor.columns.width) :
    ∃ after, fetchPage s = .ok () ⟨s.cursor.withPage page, after⟩ ∧ Free after ∧
      past after = past s.client ++ [⟨pageRequest s, .page page⟩] ∧
      after.connection.ids = s.client.connection.ids.next.2 := by
  have htook : Free (tookId s.client) := ⟨⟨h.serving.ready, h.serving.quiet⟩, h.pendingClose_eq⟩
  have hanswer : server.answer (past (tookId s.client)) (pageRequest s) = .page page := hanswer
  obtain ⟨octets, hframe⟩ : ∃ octets, (pageRequest s).frame = .ok octets := frame_putWord _ _ _
  obtain ⟨after, hsend, hfree, hpast, hids⟩ :=
    sendAndReceive_free htook hframe (by rw [hanswer]; rfl)
  rw [hanswer] at hsend hpast
  refine ⟨after, ?_, hfree, hpast, hids⟩
  have hload : (fetching s.cursor).load page.octets = .ok ((fetching s.cursor).withPage page) :=
    load_octets hwidth
  rw [fetchPage_of_response hsend]
  exact loadPage_of_ok hload

/-! ## A cursor on its way -/

/-- A cursor that has these rows left on its page and these pages before it; `script` is all that
has been asked and will be. -/
structure Amid (columns : Columns) (script : List Round) (left : List (List TaggedValue))
    (upcoming : List Page) (s : OpenCursor (Line server)) : Prop where
  columns_eq : s.cursor.columns = columns
  state_eq : s.cursor.state = .hasBufferedRows
  remaining_eq : s.cursor.remaining = left.length
  page_eq : ∃ more, s.cursor.page = Page.rowOctets left ++ [more] ∧ Page.Chained more upcoming
  width_of_left : ∀ row ∈ left, row.length = columns.width
  width_of_upcoming : ∀ page ∈ upcoming, page.width = columns.width
  free : Free s.client
  plays : server.Plays (past s.client)
    (pageRounds s.cursor.pageOp s.cursor.id s.client.connection.ids upcoming)
  script_eq : past s.client ++
    pageRounds s.cursor.pageOp s.cursor.id s.client.connection.ids upcoming = script

/-- A cursor that has given everything. -/
structure Over (script : List Round) (s : OpenCursor (Line server)) : Prop where
  state_eq : s.cursor.state = .exhausted
  free : Free s.client
  past_eq : past s.client = script

/-- With its page a cursor has its rows before it. -/
theorem Amid.withPage {c : Cursor} {client : Client (Line server)} {page : Page}
    (hwidth : page.width = c.columns.width) (hchained : Page.Chained page.more upcoming)
    (hupcoming : ∀ page ∈ upcoming, page.width = c.columns.width) (hfree : Free client)
    (hplays : server.Plays (past client) (pageRounds c.pageOp c.id client.connection.ids upcoming)) :
    Amid c.columns (past client ++ pageRounds c.pageOp c.id client.connection.ids upcoming)
      page.rows upcoming ⟨c.withPage page, client⟩ where
  columns_eq := rfl
  state_eq := rfl
  remaining_eq := rfl
  page_eq := ⟨page.more, rfl, hchained⟩
  width_of_left row hrow := (page.length_of_mem row hrow).trans hwidth
  width_of_upcoming := hupcoming
  free := hfree
  plays := hplays
  script_eq := rfl

theorem takes_row {row : List TaggedValue} {values : List WireValue}
    (h : List.Forall₂ (fun value v => WireValue.decode value.octets = .ok v []) row values) :
    Reader.Takes (Reader.replicate row.length WireValue.decode) (row.flatMap TaggedValue.octets)
      values := by
  induction h with
  | nil => exact .pure []
  | cons hvalue _ ih =>
    rw [List.flatMap_cons]
    exact .bind (WireValue.decode_takes hvalue) (.map (_ :: ·) ih)

/-- What is read from the page while there are rows on it is the first of them. -/
theorem Amid.taken {row : List TaggedValue} {values : List WireValue} {page : Bytes}
    (h : Amid columns script (row :: left) upcoming s)
    (hread : Reader.replicate s.cursor.columns.width WireValue.decode s.cursor.page =
      .ok values page) :
    ∃ after, advance s = .ok (.row ⟨columns.names, values⟩) after ∧
      Amid columns script left upcoming after := by
  obtain ⟨more, hpage, hchained⟩ := h.page_eq
  have hremaining : 0 < s.cursor.remaining := h.remaining_eq ▸ Nat.succ_pos _
  have hwidth : row.length = s.cursor.columns.width :=
    (h.width_of_left row List.mem_cons_self).trans (congrArg Columns.width h.columns_eq).symm
  have hleft : page = Page.rowOctets left ++ [more] := by
    have hstays : Reader.StaysIn (Reader.replicate row.length WireValue.decode)
        (row.flatMap TaggedValue.octets) := .replicate fun value _ => value.staysIn
    have hfront : s.cursor.page =
        row.flatMap TaggedValue.octets ++ (Page.rowOctets left ++ [more]) := by
      rw [hpage, Page.rowOctets, List.flatMap_cons, List.append_assoc]
      rfl
    rw [hfront, ← hwidth] at hread
    rcases hstays (Page.rowOctets left ++ [more]) with ⟨_, hok⟩ | ⟨_, _, herror⟩
    · rw [hok] at hread
      injection hread with _ hrest
      exact hrest.symm
    · cases herror.symm.trans hread
  have hadvance : advance s = .ok (.row ⟨columns.names, values⟩) { s with
      cursor := { s.cursor with page, remaining := s.cursor.remaining - 1 } } := by
    rw [advance_of_rows h.state_eq hremaining, map_apply, decodeRow_of_ok hread, h.columns_eq]
  refine ⟨_, hadvance, ?_⟩
  exact {
    columns_eq := h.columns_eq
    state_eq := h.state_eq
    remaining_eq := congrArg (· - 1) h.remaining_eq
    page_eq := ⟨more, hleft, hchained⟩
    width_of_left := (List.forall_mem_cons.mp h.width_of_left).2
    width_of_upcoming := h.width_of_upcoming
    free := h.free
    plays := h.plays
    script_eq := h.script_eq }

/-- While there are rows on the page, a turn takes one. -/
theorem Amid.row {row : List TaggedValue} {values : List WireValue}
    (h : Amid columns script (row :: left) upcoming s)
    (hrow : List.Forall₂ (fun value v => WireValue.decode value.octets = .ok v []) row values) :
    ∃ after, advance s = .ok (.row ⟨columns.names, values⟩) after ∧
      Amid columns script left upcoming after := by
  obtain ⟨more, hpage, -⟩ := h.page_eq
  have hwidth : row.length = s.cursor.columns.width :=
    (h.width_of_left row List.mem_cons_self).trans (congrArg Columns.width h.columns_eq).symm
  have hread : Reader.replicate s.cursor.columns.width WireValue.decode s.cursor.page =
      .ok values (Page.rowOctets left ++ [more]) := by
    rw [hpage, Page.rowOctets, List.flatMap_cons, List.append_assoc, ← hwidth]
    exact takes_row hrow _
  exact h.taken hread

/-- At the end of a page that is not the last one, a turn asks for the next. -/
theorem Amid.fetch {page : Page} (h : Amid columns script [] (page :: upcoming) s) :
    ∃ after, advance s = .ok .fetched after ∧ Amid columns script page.rows upcoming after := by
  obtain ⟨more, hpage, hmore, hchained⟩ := h.page_eq
  obtain ⟨hanswer, hplays⟩ := h.plays
  have hupcoming := List.forall_mem_cons.mp h.width_of_upcoming
  rw [← h.columns_eq] at hupcoming
  let waiting : OpenCursor (Line server) := { s with cursor := { s.cursor with page := [] } }
  obtain ⟨after, hfetch, hfree, hpast, hids⟩ :=
    fetchPage_free (s := waiting) h.free hanswer hupcoming.1
  refine ⟨⟨waiting.cursor.withPage page, after⟩, ?_, ?_⟩
  · rw [advance_of_more h.state_eq h.remaining_eq hpage hmore, map_apply, hfetch]
  · have hround : past after = past s.client ++
        [⟨⟨s.cursor.pageOp, s.client.connection.ids.next.1, Word.encode s.cursor.id⟩,
          .page page⟩] := hpast
    rw [← hround, ← hids] at hplays
    have hamid := Amid.withPage (c := waiting.cursor) hupcoming.1 hchained hupcoming.2 hfree hplays
    have hscript := h.script_eq
    rw [pageRounds, ← List.singleton_append, ← List.append_assoc, ← hround, ← hids] at hscript
    have hcolumns : waiting.cursor.columns = columns := h.columns_eq
    rw [hcolumns] at hamid
    exact hscript ▸ hamid

/-- At the end of the last page, a turn says that this is all. -/
theorem Amid.last (h : Amid columns script [] [] s) :
    ∃ after, advance s = .ok .finished after ∧ Over script after := by
  obtain ⟨more, hpage, rfl⟩ := h.page_eq
  refine ⟨_, advance_of_last h.state_eq h.remaining_eq hpage, rfl, h.free, ?_⟩
  rw [← h.script_eq]
  exact (List.append_nil _).symm

/-! ## Rows, wherever the pages are cut -/

/-- A cursor that has these rows before it and at most so many pages to ask for. -/
inductive Due (columns : Columns) (script : List Round) (rows : List (List WireValue))
    (fetches : Nat) (s : OpenCursor (Line server)) : Prop
  | amid {left : List (List TaggedValue)} {upcoming : List Page}
    (h : Amid columns script left upcoming s)
    (hrows : Page.Reads (left ++ upcoming.flatMap Page.rows) rows)
    (hfetches : upcoming.length ≤ fetches)
  | done (h : Over script s) (hrows : rows = [])

/-- What a turn of a cursor comes to that has rows before it. -/
inductive Due.Turned (columns : Columns) (script : List Round) (rows : List (List WireValue))
    (fetches : Nat) (s : OpenCursor (Line server)) : Prop
  | row {values : List WireValue} {rest : List (List WireValue)} {after : OpenCursor (Line server)}
    (hrows : rows = values :: rest)
    (hadvance : advance s = .ok (.row ⟨columns.names, values⟩) after)
    (hafter : Due columns script rest fetches after)
  | fetched {fewer : Nat} {after : OpenCursor (Line server)} (hfewer : fewer < fetches)
    (hadvance : advance s = .ok .fetched after) (hafter : Due columns script rows fewer after)
  | finished {after : OpenCursor (Line server)} (hrows : rows = [])
    (hadvance : advance s = .ok .finished after) (hafter : Over script after)

variable {rows : List (List WireValue)} {fetches : Nat}

theorem Due.mono {more : Nat} (h : Due columns script rows fetches s) (hle : fetches ≤ more) :
    Due columns script rows more s := by
  cases h with
  | amid h hrows hfetches => exact .amid h hrows (Nat.le_trans hfetches hle)
  | done h hrows => exact .done h hrows

theorem Due.turn (h : Due columns script rows fetches s) :
    Due.Turned columns script rows fetches s := by
  cases h with
  | done h hrows =>
    have hfinal : s.cursor.state.isFinal = true := by rw [h.state_eq]; rfl
    exact .finished hrows (advance_of_final hfinal) h
  | @amid left upcoming h hrows hfetches =>
    cases left with
    | cons row left =>
      cases hrows with
      | cons hrow hrest =>
        obtain ⟨after, hadvance, hafter⟩ := h.row hrow
        exact .row rfl hadvance (.amid hafter hrest hfetches)
    | nil =>
      cases upcoming with
      | cons page upcoming =>
        obtain ⟨after, hadvance, hafter⟩ := h.fetch
        exact .fetched hfetches hadvance (.amid hafter hrows (Nat.le_refl _))
      | nil =>
        cases hrows
        obtain ⟨after, hadvance, hafter⟩ := h.last
        exact .finished rfl hadvance hafter

/-- The next row is the first one that is due, if there is one. -/
theorem nextRow_due {turns : Nat} (h : Due columns script rows fetches s)
    (hturns : fetches < turns) :
    ∃ after, nextRow turns s = .ok (rows.head?.map (Row.mk columns.names)) after ∧
      Due columns script rows.tail fetches after ∧ (rows = [] → Over script after) := by
  induction turns generalizing s fetches with
  | zero => omega
  | succ turns ih =>
    cases h.turn with
    | row hrows hadvance hafter =>
      subst hrows
      exact ⟨_, nextRow_of_row hadvance turns, hafter,
        fun hnil => absurd hnil (List.cons_ne_nil _ _)⟩
    | fetched hfewer hadvance hafter =>
      obtain ⟨last, hnext, hlast, hover⟩ := ih hafter (by omega)
      exact ⟨last, (nextRow_of_fetched hadvance turns).trans hnext,
        hlast.mono (Nat.le_of_lt hfewer), hover⟩
    | finished hrows hadvance hafter =>
      subst hrows
      exact ⟨_, nextRow_of_finished hadvance turns, .done hafter rfl, fun _ => hafter⟩

/-- The next rows, one call for each. -/
def nextRows {σ : Type} [Peer σ] (turns : Nat) : (calls : Nat) → CursorCall σ (List (Option Row))
  | 0 => return []
  | calls + 1 => do
    let row? ← nextRow turns
    return row? :: (← nextRows turns calls)

/-- Calls for the next row give the rows that are due in their order, and then none. -/
theorem nextRows_due {turns : Nat} (calls : Nat) (h : Due columns script rows fetches s)
    (hturns : fetches < turns) :
    ∃ after, nextRows turns calls s =
        .ok ((List.range calls).map fun i => rows[i]?.map (Row.mk columns.names)) after ∧
      (rows.length < calls → Over script after) := by
  induction calls generalizing s rows with
  | zero => exact ⟨s, rfl, fun hcalls => absurd hcalls (Nat.not_lt_zero _)⟩
  | succ calls ih =>
    obtain ⟨middle, hnext, hmiddle, hover⟩ := nextRow_due h hturns
    obtain ⟨after, hnexts, hafter⟩ := ih hmiddle
    refine ⟨after, ?_, fun hcalls => ?_⟩
    · rw [nextRows, bind_apply, hnext]
      dsimp only
      rw [bind_apply, hnexts]
      have hrange : (List.range (calls + 1)).map (fun i => rows[i]?.map (Row.mk columns.names)) =
          rows.head?.map (Row.mk columns.names) ::
            (List.range calls).map fun i => rows.tail[i]?.map (Row.mk columns.names) := by
        rw [List.range_succ_eq_map, List.map_cons, List.map_map, List.head?_eq_getElem?]
        simp only [Function.comp_def, List.getElem?_tail]
      rw [hrange]
      rfl
    · by_cases hlast : calls = 0
      · subst hlast
        cases hnexts
        exact hover (List.eq_nil_of_length_eq_zero (by omega))
      · exact hafter (by rw [List.length_tail]; omega)

/-- All rows that are due. -/
theorem fetchAll_due {turns : Nat} (h : Due columns script rows fetches s)
    (hturns : rows.length + fetches < turns) :
    ∃ after, fetchAll .ok turns s = .ok (rows.map (Row.mk columns.names)) after ∧
      Over script after := by
  induction turns generalizing s rows fetches with
  | zero => omega
  | succ turns ih =>
    rw [fetchAll]
    cases h.turn with
    | row hrows hadvance hafter =>
      subst hrows
      rw [List.length_cons] at hturns
      obtain ⟨last, hrest, hlast⟩ := ih hafter (by omega)
      refine ⟨last, ?_, hlast⟩
      rw [bind_apply, hadvance]
      change (fetchAll .ok turns >>= _) _ = _
      rw [bind_apply, hrest]
      rfl
    | fetched hfewer hadvance hafter =>
      obtain ⟨last, hrest, hlast⟩ := ih hafter (by omega)
      refine ⟨last, ?_, hlast⟩
      rw [bind_apply, hadvance]
      exact hrest
    | finished hrows hadvance hafter =>
      subst hrows
      refine ⟨_, ?_, hafter⟩
      rw [bind_apply, hadvance]
      rfl

/-- A cursor that has given everything is dropped without a trace. -/
theorem Over.drop (h : Over script s) : s.cursor.drop s.client = s.client :=
  drop_of_isOver (by rw [isOver, h.state_eq]; rfl)

end Cursor

namespace Query

variable {client : Client (Line server)} {q : Query} {payload columnOctets : Bytes} {id : Int64}
  {first : Page} {rest : List Page}

/-- The request that opens a cursor and the requests for its pages, with what is answered; `clear`
is the client when it has sent its deferred closes. -/
def script (q : Query) (client clear : Client (Line server)) (payload : Bytes) (id : Int64)
    (columnOctets : Bytes) (first : Page) (rest : List Page) : List Round :=
  ⟨q.openRequest client payload, .opened id columnOctets first⟩ ::
    Cursor.pageRounds q.pageOp id clear.connection.ids rest

/-- The request that opens a cursor and the requests for its pages, with what is answered. -/
def rounds (q : Query) (client : Client (Line server)) (payload : Bytes) (id : Int64)
    (columnOctets : Bytes) (first : Page) (rest : List Page) : List Round :=
  ⟨q.openRequest client payload, .opened id columnOctets first⟩ ::
    Cursor.pageRounds q.pageOp id client.connection.ids.next.2 rest

/-- A server that answers so has sent columns of the width of the page. -/
theorem readColumns_of_answer (hpayload : q.payload client.connection.config.pageSize = .ok payload)
    {past : List Round}
    (hanswer : server.answer past (q.openRequest client payload) =
      .opened id columnOctets first) :
    ∃ columns : Columns, columns.width = first.width ∧
      Reader.Takes q.readColumns columnOctets columns := by
  rcases server.answer_open past (q.openRequest client payload) q.openOp_mem with
    ⟨status, text, -, hrefused⟩ | ⟨id', columns, first', hopened, -, hcolumns⟩
  · cases hanswer.symm.trans hrefused
  · cases hanswer.symm.trans hopened
    exact readColumns_takes hpayload hcolumns

/-- A query that is answered so behind the deferred closes opens a cursor with the first page. -/
theorem openCursor_amid {clear : Client (Line server)} (hfree : Free clear)
    (hclear : closePending (tookId client) = .ok () clear)
    (hpayload : q.payload client.connection.config.pageSize = .ok payload) {octets : Bytes}
    (hframe : (q.openRequest client payload).frame = .ok octets)
    (hplays : server.Plays (past clear) (q.script client clear payload id columnOctets first rest))
    (hchained : Page.Chained first.more rest)
    (hwidth : ∀ page ∈ rest, page.width = first.width) :
    ∃ cursor after, q.openCursor client = .ok cursor after ∧ cursor.id = id ∧
      cursor.columns.width = first.width ∧ Reader.Takes q.readColumns columnOctets cursor.columns ∧
      Cursor.Amid cursor.columns
        (past clear ++ q.script client clear payload id columnOctets first rest) first.rows rest
        ⟨cursor, after⟩ := by
  obtain ⟨hanswer, hnext⟩ := hplays
  obtain ⟨columns, hcolumnsWidth, hcolumns⟩ := readColumns_of_answer hpayload hanswer
  obtain ⟨after, hsend, hfree, hpast, hids⟩ :=
    sendAndReceive_clear hfree hclear hframe (by rw [hanswer]; rfl)
  rw [hanswer] at hsend hpast
  let fresh : Cursor := { id, pageOp := q.pageOp, columns }
  have hid : Reader.word Int64 (Word.encode id ++ (columnOctets ++ first.octets)) =
      .ok id (columnOctets ++ first.octets) := Reader.takes_word id _
  have hload : fresh.load first.octets = .ok (fresh.withPage first) :=
    Cursor.load_octets hcolumnsWidth.symm
  have hopen : q.openCursor client = .ok (fresh.withPage first) after := by
    rw [openCursor_of_response hpayload hsend hid (hcolumns _)]
    exact Cursor.takeOver_of_load hload
  have hscript : past after ++ Cursor.pageRounds q.pageOp id after.connection.ids rest =
      past clear ++ q.script client clear payload id columnOctets first rest := by
    rw [script, hids, hpast, List.append_assoc, List.singleton_append]
  have hamid := Cursor.Amid.withPage (c := fresh) hcolumnsWidth.symm hchained
    (fun page hmem => (hwidth page hmem).trans hcolumnsWidth.symm) hfree
    (by rw [hpast, hids]; exact hnext)
  exact ⟨fresh.withPage first, after, hopen, rfl, hcolumnsWidth, hcolumns, hscript ▸ hamid⟩

/-- A query that is answered so opens a cursor that has all the rows before it. -/
theorem openCursor_due (hclient : Free client)
    (hpayload : q.payload client.connection.config.pageSize = .ok payload) {octets : Bytes}
    (hframe : (q.openRequest client payload).frame = .ok octets)
    (hplays : server.Plays (past client) (q.rounds client payload id columnOctets first rest))
    (hchained : Page.Chained first.more rest) (hwidth : ∀ page ∈ rest, page.width = first.width)
    {rows : List (List WireValue)}
    (hrows : Page.Reads ((first :: rest).flatMap Page.rows) rows) :
    ∃ cursor after, q.openCursor client = .ok cursor after ∧
      cursor.columns.width = first.width ∧ Reader.Takes q.readColumns columnOctets cursor.columns ∧
      Cursor.Due cursor.columns
        (past client ++ q.rounds client payload id columnOctets first rest) rows rest.length
        ⟨cursor, after⟩ := by
  have htook : Free (tookId client) :=
    ⟨⟨hclient.serving.ready, hclient.serving.quiet⟩, hclient.pendingClose_eq⟩
  obtain ⟨cursor, after, hopen, -, hcursor, hcolumns, hamid⟩ :=
    openCursor_amid htook (closePending_nil htook.pendingClose_eq) hpayload hframe hplays hchained
      hwidth
  exact ⟨cursor, after, hopen, hcursor, hcolumns, .amid hamid hrows (Nat.le_refl _)⟩

/-- **However the rows of a result are cut into pages, the cursor gives these rows and then none**,
row by row or all at once. Every page is taken, each but the first is asked for once, nothing else
is asked, and nothing is deferred to close. -/
theorem openCursor_pages (hclient : Free client)
    (hpayload : q.payload client.connection.config.pageSize = .ok payload) {octets : Bytes}
    (hframe : (q.openRequest client payload).frame = .ok octets)
    (hplays : server.Plays (past client) (q.rounds client payload id columnOctets first rest))
    (hchained : Page.Chained first.more rest) (hwidth : ∀ page ∈ rest, page.width = first.width)
    {rows : List (List WireValue)}
    (hrows : Page.Reads ((first :: rest).flatMap Page.rows) rows) :
    let said := past client ++ q.rounds client payload id columnOctets first rest
    ∃ cursor after, q.openCursor client = .ok cursor after ∧
      Reader.Takes q.readColumns columnOctets cursor.columns ∧
      (∀ page ∈ first :: rest, cursor.load page.octets = .ok (cursor.withPage page)) ∧
      (∀ turns calls, rest.length < turns →
        ∃ s, Cursor.nextRows turns calls ⟨cursor, after⟩ =
            .ok ((List.range calls).map fun i => rows[i]?.map (Row.mk cursor.columns.names)) s ∧
          (rows.length < calls → s.cursor.state = .exhausted ∧ past s.client = said ∧
            (s.cursor.drop s.client).connection.pendingClose = [])) ∧
      ∀ turns, rows.length + rest.length < turns →
        ∃ last, q.fetchAll .ok turns client =
            .ok (rows.map (Row.mk cursor.columns.names)) last ∧
          past last = said ∧ last.connection.pendingClose = [] := by
  intro said
  obtain ⟨cursor, after, hopen, hcursor, hcolumns, hdue⟩ :=
    openCursor_due hclient hpayload hframe hplays hchained hwidth hrows
  have hload : ∀ page ∈ first :: rest, cursor.load page.octets = .ok (cursor.withPage page) :=
    List.forall_mem_cons.mpr ⟨Cursor.load_octets hcursor.symm,
      fun page hmem => Cursor.load_octets ((hwidth page hmem).trans hcursor.symm)⟩
  refine ⟨cursor, after, hopen, hcolumns, hload, fun turns calls hturns => ?_, fun turns hturns => ?_⟩
  · obtain ⟨s, hnext, hover⟩ := Cursor.nextRows_due calls hdue hturns
    refine ⟨s, hnext, fun hcalls => ?_⟩
    have hover := hover hcalls
    rw [hover.drop]
    exact ⟨hover.state_eq, hover.past_eq, hover.free.pendingClose_eq⟩
  · obtain ⟨s, hall, hover⟩ := Cursor.fetchAll_due hdue hturns
    refine ⟨s.client, ?_, hover.past_eq, hover.free.pendingClose_eq⟩
    rw [fetchAll, bind_apply, hopen]
    simp only [Cursor.consume, hall, hover.drop]

end Query

/-! ## A server of four pages -/

namespace Session

/-- A truth value. -/
def truthValue (b : Bool) : TaggedValue :=
  .ofEncode (.bool b) (TypeCode.bool.toByte :: encodeBool b) rfl

/-- A page without entries, which is not the last one. -/
def blankPage : Page where
  width := 2
  rows := []
  length_of_mem _ hmem := absurd hmem List.not_mem_nil
  length_le := Nat.zero_le _
  more := 9

/-- Four pages: an entry, nothing, nothing, and another entry. -/
def pageOfFour : Nat → Page
  | 0 => entryPage nullValue (truthValue false)
  | 3 => { entryPage (truthValue true) nullValue with more := 0 }
  | _ => blankPage

theorem width_pageOfFour (n : Nat) : (pageOfFour n).width = 2 := by
  unfold pageOfFour
  split <;> rfl

theorem length_pageOfFour (n : Nat) : (pageOfFour n).octets.length ≤ 100 := by
  unfold pageOfFour
  split <;> decide

/-- There is one cursor to open, and its pages come in order. -/
def fourPagesAnswer (past : List Round) (request : Request) : Answer :=
  let l := Ledger.ofPast past
  if request.op = .resourceClose then .done []
  else if request.op = .queryScan ∧ 7 ∉ l.given then .opened 7 [] (pageOfFour past.length)
  else if request.op = .queryScanPage ∧ ∀ holding ∈ l.held, holding.width = 2 then
    .page (pageOfFour past.length)
  else refusal

theorem length_body_fourPages (past : List Round) (request : Request) :
    ((fourPagesAnswer past request).body request).length ≤ greatestCount := by
  have hid : (Word.encode request.id).length = 8 := Word.length_encode request.id
  have hstatus (status : Int32) : (Word.encode status).length = 4 := Word.length_encode status
  have hgiven : (Word.encode (7 : Int64)).length = 8 := Word.length_encode _
  have hpage := length_pageOfFour past.length
  rw [Answer.body, List.length_append, List.length_append, hid, hstatus, greatestCount]
  unfold fourPagesAnswer
  dsimp only
  split
  · decide
  split
  · rw [Answer.payload, List.length_append, hgiven, List.nil_append]
    omega
  split
  · rw [Answer.payload]
    omega
  · decide

/-- A server of one scan, in four pages. -/
def fourPages : Server where
  answer := fourPagesAnswer
  answer_open past request h := by
    have hclose := Operation.ne_resourceClose_of_opening h
    unfold fourPagesAnswer
    simp only [hclose, if_false]
    split
    next hscan =>
      refine .inr ⟨_, _, _, rfl, hscan.2, ?_⟩
      rw [HasColumns, if_neg (by rw [hscan.1]; decide)]
      exact ⟨rfl, width_pageOfFour _⟩
    next =>
      split
      next hpage => exact absurd h (by rw [hpage.1]; decide)
      next => exact .inl refusal_isRefusal
  answer_page past request width h hheld := by
    have hclose := Operation.ne_resourceClose_of_paging h
    unfold fourPagesAnswer
    simp only [hclose, if_false]
    split
    next hscan => exact absurd h (by rw [hscan.1]; decide)
    next =>
      split
      next hpage => exact .inr ⟨_, rfl, (width_pageOfFour _).trans (hpage.2 _ hheld).symm⟩
      next => exact .inl refusal_isRefusal
  answer_close past request h := by
    unfold fourPagesAnswer
    rw [if_pos h]
    exact .inr ⟨_, rfl⟩
  body_le := length_body_fourPages

/-- A client on a line to this server that moves three octets at a time. -/
def reader : Client (Line fourPages) :=
  ⟨{ stream := { peer := { pace := fun _ => 3 } }, config := .default }, {}⟩

/-- The scan of this server. -/
def fourPagesScan : Query :=
  .scan { cache := "c" }

/-- Two entries come in four pages, and two calls more give nothing. -/
theorem openCursor_pages_fourPages :
    ∃ cursor after, fourPagesScan.openCursor reader = .ok cursor after ∧
      (∃ s, Cursor.nextRows 4 4 ⟨cursor, after⟩ =
          .ok [some ⟨["_KEY", "_VAL"], [.null, .bool false]⟩,
            some ⟨["_KEY", "_VAL"], [.bool true, .null]⟩, none, none] s ∧
        s.cursor.state = .exhausted ∧ (past s.client).map (·.request.op) =
          [.queryScan, .queryScanPage, .queryScanPage, .queryScanPage]) ∧
      ∃ last, fourPagesScan.fetchAll .ok 6 reader = .ok [⟨["_KEY", "_VAL"], [.null, .bool false]⟩,
        ⟨["_KEY", "_VAL"], [.bool true, .null]⟩] last := by
  have hpayload : fourPagesScan.payload reader.connection.config.pageSize =
      .ok [99, 0, 0, 0, 0, 101, 0, 4, 0, 0, 255, 255, 255, 255, 0] := by cbv
  obtain ⟨octets, hframe⟩ : ∃ octets, (fourPagesScan.openRequest reader
      [99, 0, 0, 0, 0, 101, 0, 4, 0, 0, 255, 255, 255, 255, 0]).frame = .ok octets := ⟨_, rfl⟩
  have hplays : fourPages.Plays (past reader) (fourPagesScan.rounds reader
      [99, 0, 0, 0, 0, 101, 0, 4, 0, 0, 255, 255, 255, 255, 0] 7 [] (pageOfFour 0)
      [pageOfFour 1, pageOfFour 2, pageOfFour 3]) := ⟨rfl, rfl, rfl, rfl, trivial⟩
  have hchained : Page.Chained (pageOfFour 0).more
      [pageOfFour 1, pageOfFour 2, pageOfFour 3] := by
    refine ⟨?_, ?_, ?_, rfl⟩ <;> decide
  have hrows : Page.Reads
      ([pageOfFour 0, pageOfFour 1, pageOfFour 2, pageOfFour 3].flatMap Page.rows)
      [[.null, .bool false], [.bool true, .null]] :=
    .cons (.cons rfl (.cons rfl .nil)) (.cons (.cons rfl (.cons rfl .nil)) .nil)
  obtain ⟨cursor, after, hopen, hcolumns, -, hnext, hall⟩ :=
    Query.openCursor_pages ⟨⟨rfl, ⟨rfl, rfl, rfl, rfl⟩⟩, rfl⟩ hpayload hframe hplays hchained
      (by simp [width_pageOfFour]) hrows
  have hnames : Query.entryColumns = cursor.columns :=
    (EStateM.Result.ok.inj (hcolumns [])).1
  rw [← hnames] at hnext hall
  obtain ⟨s, hrun, hover⟩ := hnext 4 4 (by decide)
  obtain ⟨hstate, hpast, -⟩ := hover (by decide)
  obtain ⟨last, hfetch, -⟩ := hall 6 (by decide)
  exact ⟨cursor, after, hopen, ⟨s, hrun, hstate, hpast ▸ rfl⟩, last, hfetch⟩

end Session

end ThinClient
