import ThinClient.Proofs.Query.Failures
import ThinClient.Proofs.Query.Truncation

/-!
# How many rows a payload gives

A page says how many rows it has before it has them. A cursor takes only a page that has an octet
for each value of its rows, so that a short payload cannot become a long list of rows.

* `Cursor.Turned` is what a turn of a cursor comes to, over any peer (`advance_turned`), and
  `Cursor.Halted` is a cursor that has no page any more.
* `Query.Drawn` is a query with all payloads that have answered it and the rows that its cursor has
  given from each, in whatever way its calls end. Every row that a call gives is one of these rows
  (`Drawn.nextRow`, `Drawn.fetchAll`, `fetchAll_drawn`).
* `Cursor.Fits` is the invariant: the payloads hold the rows that have been given, and the last one
  also holds those that are to come. `Drawn.fits` says that it is kept.
* `Drawn.rows_le`: **no payload gives more rows than it has octets, if the rows have columns.** A
  result without columns is not bounded so (`Drawn.drain`): a value that does not exist needs no
  octet, and a payload gives as many rows as it declares.
-/

namespace ThinClient

open Connection Reader

variable {σ : Type} [Peer σ]

namespace Cursor

variable {s after : OpenCursor σ} {c cursor : Cursor} {e : Error}

/-! ## Between two pages -/

/-- A cursor with these columns that has no page. -/
structure Halted (columns : Columns) (c : Cursor) : Prop where
  state_ne : c.state ≠ .hasBufferedRows
  columns_eq : c.columns = columns

theorem close_halts (s : OpenCursor σ) : Halted s.cursor.columns (s.after close).cursor := by
  cases hfinal : s.cursor.state.isFinal with
  | true =>
    rw [OpenCursor.after_of_ok (close_of_final hfinal)]
    refine ⟨?_, rfl⟩
    intro hstate
    rw [hstate] at hfinal
    cases hfinal
  | false =>
    cases hreleased : s.cursor.isReleased with
    | true =>
      rw [OpenCursor.after_of_ok (close_of_released hfinal hreleased)]
      exact ⟨by simp, rfl⟩
    | false =>
      have hclose := close_of_open hfinal hreleased
      rw [onClient] at hclose
      dsimp only at hclose
      cases hclosed : closeResource s.cursor.id s.client with
      | ok _ client =>
        rw [hclosed] at hclose
        rw [OpenCursor.after_of_ok hclose]
        exact ⟨by simp, rfl⟩
      | error stop client =>
        rw [hclosed] at hclose
        rw [OpenCursor.after_of_error hclose]
        exact ⟨by simp, rfl⟩

theorem abort_halts (α : Type) (e : Error) (s : OpenCursor σ) :
    ∃ stop after, abort (α := α) e s = .error stop after ∧
      Halted s.cursor.columns after.cursor := by
  cases he : e.isConnectionError with
  | true => exact ⟨_, _, abort_of_connectionError he, by simp, rfl⟩
  | false =>
    have hhalts := close_halts s
    cases hclose : close s with
    | ok _ after =>
      rw [OpenCursor.after_of_ok hclose] at hhalts
      exact ⟨_, _, abort_of_closed he (closeQuietly_of_ok hclose), hhalts⟩
    | error stop after =>
      rw [OpenCursor.after_of_error hclose] at hhalts
      cases stop with
      | failed cause => exact ⟨_, _, abort_of_closed he (closeQuietly_of_failed hclose), hhalts⟩
      | cancelled => exact ⟨_, _, abort_of_cancelled he (closeQuietly_of_cancelled hclose), hhalts⟩

/-! ## What a turn does -/

/-- A page comes, or the cursor has none. -/
theorem fetchPage_cases (s : OpenCursor σ) :
    (∃ response client cursor,
        sendAndReceive (pageRequest s) (tookId s.client) = .ok response client ∧
        (fetching s.cursor).load response.payload = .ok cursor ∧
        fetchPage s = .ok () ⟨cursor, client⟩) ∨
      ∃ stop after, fetchPage s = .error stop after ∧ Halted s.cursor.columns after.cursor := by
  cases hcall : sendAndReceive (pageRequest s) (tookId s.client) with
  | ok response client =>
    have hfetch := fetchPage_of_response hcall
    cases hload : (fetching s.cursor).load response.payload with
    | ok cursor =>
      rw [loadPage_of_ok (s := ⟨fetching s.cursor, client⟩) hload] at hfetch
      exact .inl ⟨response, client, cursor, rfl, hload, hfetch⟩
    | error cause =>
      obtain ⟨stop, after, habort, hhalts⟩ :=
        abort_halts Unit cause ⟨fetching s.cursor, client⟩
      rw [loadPage_of_error (s := ⟨fetching s.cursor, client⟩) hload, habort] at hfetch
      exact .inr ⟨stop, after, hfetch, hhalts⟩
  | error stop client =>
    right
    change ∃ stop after, (orAbort (sendAndReceive (pageRequest s)) >>= fun response =>
      loadPage response.payload) ⟨fetching s.cursor, tookId s.client⟩ = .error stop after ∧ _
    rw [bind_apply]
    cases stop with
    | failed e =>
      obtain ⟨stop, after, habort, hhalts⟩ := abort_halts Response e ⟨fetching s.cursor, client⟩
      simp only [orAbort, onClient, hcall, habort]
      exact ⟨stop, after, rfl, hhalts⟩
    | cancelled =>
      simp only [orAbort, onClient, hcall]
      exact ⟨.cancelled, _, rfl, by simp [fetching], rfl⟩

/-- What a turn of a cursor comes to. -/
inductive Turned (s : OpenCursor σ) : EStateM.Result (Stop Error) (OpenCursor σ) Turn → Prop
  | row {values : List WireValue} {page : Bytes} (hstate : s.cursor.state = .hasBufferedRows)
    (hrows : 0 < s.cursor.remaining)
    (hread : Reader.replicate s.cursor.columns.width WireValue.decode s.cursor.page =
      .ok values page) :
    Turned s (.ok (.row ⟨s.cursor.columns.names, values⟩) { s with
      cursor := { s.cursor with page, remaining := s.cursor.remaining - 1 } })
  | fetched {page : Bytes} {response : Response} {client : Client σ} {cursor : Cursor}
    (hask : sendAndReceive (pageRequest s) (tookId s.client) = .ok response client)
    (hload : (fetching { s.cursor with page }).load response.payload = .ok cursor) :
    Turned s (.ok .fetched ⟨cursor, client⟩)
  | finished {after : OpenCursor σ} (h : Halted s.cursor.columns after.cursor) :
    Turned s (.ok .finished after)
  | stopped {stop : Stop Error} {after : OpenCursor σ} (h : Halted s.cursor.columns after.cursor) :
    Turned s (.error stop after)

theorem Turned.of_fetchPage (page : Bytes) :
    Turned s (((fun _ => .fetched) <$> fetchPage) { s with cursor := { s.cursor with page } }) := by
  rw [map_apply]
  rcases fetchPage_cases { s with cursor := { s.cursor with page } } with
    ⟨response, client, cursor, hask, hload, hfetch⟩ | ⟨stop, after, hfetch, hhalts⟩
  · rw [hfetch]
    exact .fetched hask hload
  · rw [hfetch]
    exact .stopped hhalts

theorem Turned.of_abort (e : Error) (page : Bytes) :
    Turned s (abort e { s with cursor := { s.cursor with page } }) := by
  obtain ⟨stop, after, habort, hhalts⟩ :=
    abort_halts Turn e { s with cursor := { s.cursor with page } }
  rw [habort]
  exact .stopped hhalts

theorem advance_turned (s : OpenCursor σ) : Turned s (advance s) := by
  cases hstate : s.cursor.state with
  | exhausted | closed =>
    rw [advance_of_final (by rw [hstate]; rfl)]
    exact .finished ⟨by simp [hstate], rfl⟩
  | created =>
    rw [advance_of_waiting (.inl hstate)]
    exact .of_fetchPage s.cursor.page
  | fetchingNextPage =>
    rw [advance_of_waiting (.inr hstate)]
    exact .of_fetchPage s.cursor.page
  | hasBufferedRows =>
    by_cases hrows : 0 < s.cursor.remaining
    · rw [advance_of_rows hstate hrows, map_apply]
      cases hread : Reader.replicate s.cursor.columns.width WireValue.decode s.cursor.page with
      | ok values page =>
        rw [decodeRow_of_ok hread]
        exact .row hstate hrows hread
      | error cause page =>
        obtain ⟨stop, after, habort, hhalts⟩ :=
          abort_halts Row cause { s with cursor := { s.cursor with page } }
        rw [decodeRow_of_error hread, habort]
        exact .stopped hhalts
    · have hnone : s.cursor.remaining = 0 := by omega
      cases hpage : s.cursor.page with
      | nil =>
        rw [advance_of_empty hstate hnone hpage]
        exact .of_abort _ s.cursor.page
      | cons more rest =>
        rw [advance_of_rest hstate hnone hpage]
        split
        · exact .finished ⟨by simp, rfl⟩
        · exact .of_fetchPage rest

theorem turned_of_advance {result : EStateM.Result (Stop Error) (OpenCursor σ) Turn}
    (h : advance s = result) : Turned s result :=
  h ▸ advance_turned s

end Cursor

/-! ## Payloads and their rows -/

/-- The payload that answers the request of a query, if there is one. -/
def Query.answer? (q : Query) (client : Client σ) : Option Bytes :=
  match q.payload client.connection.config.pageSize with
  | .error _ => none
  | .ok payload =>
    match sendAndReceive (q.openRequest client payload) (tookId client) with
    | .ok response _ => some response.payload
    | .error .. => none

/-- The payload that answers the request for the next page of a cursor, if there is one. -/
def Cursor.answer? (s : OpenCursor σ) : Option Bytes :=
  match sendAndReceive (Cursor.pageRequest s) (tookId s.client) with
  | .ok response _ => some response.payload
  | .error .. => none

/-- A payload, and the rows that a cursor has given from it. -/
structure Draw where
  payload : Bytes
  rows : List Row

/-- All rows that have been given. -/
def Draw.allRows (draws : List Draw) : List Row :=
  draws.flatMap Draw.rows

/-- A query has been sent, and its cursor has given these rows from the payloads that it got. Turns
and closes come in any order, and it makes no difference how they end. -/
inductive Query.Drawn (q : Query) (client : Client σ) : List Draw → OpenCursor σ → Prop
  | opened {payload : Bytes} {cursor : Cursor} {after : Client σ}
    (hanswer : q.answer? client = some payload) (h : q.openCursor client = .ok cursor after) :
    Drawn q client [⟨payload, []⟩] ⟨cursor, after⟩
  | row {earlier : List Draw} {payload : Bytes} {rows : List Row} {row : Row}
    {s after : OpenCursor σ} (hdrawn : Drawn q client (earlier ++ [⟨payload, rows⟩]) s)
    (h : Cursor.advance s = .ok (.row row) after) :
    Drawn q client (earlier ++ [⟨payload, rows ++ [row]⟩]) after
  | page {draws : List Draw} {payload : Bytes} {s after : OpenCursor σ}
    (hdrawn : Drawn q client draws s) (hanswer : Cursor.answer? s = some payload)
    (h : Cursor.advance s = .ok .fetched after) :
    Drawn q client (draws ++ [⟨payload, []⟩]) after
  | finished {draws : List Draw} {s after : OpenCursor σ} (hdrawn : Drawn q client draws s)
    (h : Cursor.advance s = .ok .finished after) : Drawn q client draws after
  | stopped {draws : List Draw} {s after : OpenCursor σ} {stop : Stop Error}
    (hdrawn : Drawn q client draws s) (h : Cursor.advance s = .error stop after) :
    Drawn q client draws after
  | closed {draws : List Draw} {s : OpenCursor σ} (hdrawn : Drawn q client draws s) :
    Drawn q client draws (s.after Cursor.close)

namespace Draw

variable {width : Nat} {d : Draw}

/-- The payload has room for the rows and so many more, and the rows have as many values as there
are columns. -/
structure Holds (width : Nat) (d : Draw) (more : Nat) : Prop where
  room : (d.rows.length + more) * width + 4 ≤ d.payload.length
  counted : d.rows.length + more ≤ greatestCount
  wide : ∀ row ∈ d.rows, row.values.length = width

theorem Holds.mono {more fewer : Nat} (h : d.Holds width more) (hle : fewer ≤ more) :
    d.Holds width fewer where
  room := by
    have hroom := h.room
    have hmul := Nat.mul_le_mul_right width (Nat.add_le_add_left hle d.rows.length)
    omega
  counted := by
    have hcounted := h.counted
    omega
  wide := h.wide

/-- A row that is given is one less that is to come. -/
theorem Holds.give {payload : Bytes} {rows : List Row} {row : Row} {more : Nat}
    (h : Holds width ⟨payload, rows⟩ (more + 1)) (hrow : row.values.length = width) :
    Holds width ⟨payload, rows ++ [row]⟩ more where
  room := by
    have hroom := h.room
    rw [List.length_append, List.length_singleton, Nat.add_right_comm]
    exact hroom
  counted := by
    have hcounted := h.counted
    rw [List.length_append, List.length_singleton, Nat.add_right_comm]
    exact hcounted
  wide := List.forall_mem_append.mpr ⟨h.wide, List.forall_mem_singleton.mpr hrow⟩

end Draw

namespace Cursor

variable {c cursor : Cursor} {s after : OpenCursor σ} {draws earlier : List Draw}
  {payload page : Bytes}

/-- The rows that a page declares have room behind its count. -/
theorem room_of_load (h : c.load page = .ok cursor) :
    cursor.remaining * c.columns.width + 4 ≤ page.length ∧ cursor.remaining ≤ greatestCount := by
  obtain ⟨rows, rest, hlength, hroom, rfl⟩ := load_eq_ok h
  obtain ⟨front, rfl, rfl, hle⟩ := Yields.length _ _ _ hlength
  refine ⟨?_, hle⟩
  rw [List.length_append, LittleEndian.length_encode]
  show rows * c.columns.width + 4 ≤ _
  omega

/-- Each payload holds the rows that have been given from it, and the last one also those that are
to come. -/
structure Fits (c : Cursor) (draws : List Draw) : Prop where
  given : ∀ d ∈ draws, d.Holds c.columns.width 0
  coming : c.state = .hasBufferedRows → ∀ d ∈ draws.getLast?, d.Holds c.columns.width c.remaining

theorem Fits.halted (h : Fits c draws) (hafter : Halted c.columns cursor) : Fits cursor draws := by
  refine ⟨?_, fun hstate => absurd hstate hafter.state_ne⟩
  rw [hafter.columns_eq]
  exact h.given

/-- A page that comes is the last one. -/
theorem Fits.load (h : ∀ d ∈ draws, d.Holds c.columns.width 0) (hload : c.load page = .ok cursor)
    (hle : page.length ≤ payload.length) : Fits cursor (draws ++ [⟨payload, []⟩]) := by
  obtain ⟨hroom, hcounted⟩ := room_of_load hload
  obtain ⟨rows, rest, -, -, rfl⟩ := load_eq_ok hload
  have hholds : Draw.Holds c.columns.width ⟨payload, []⟩ rows := by
    refine ⟨?_, ?_, by simp⟩
    · rw [List.length_nil, Nat.zero_add]
      exact hroom.trans hle
    · rw [List.length_nil, Nat.zero_add]
      exact hcounted
  constructor
  · exact List.forall_mem_append.mpr
      ⟨h, List.forall_mem_singleton.mpr (hholds.mono (Nat.zero_le _))⟩
  · intro _ d hd
    rw [List.getLast?_concat] at hd
    cases hd
    exact hholds

theorem Fits.row {rows : List Row} {row : Row} (h : Fits c (earlier ++ [⟨payload, rows⟩]))
    (hstate : c.state = .hasBufferedRows) (hrows : 0 < c.remaining)
    (hrow : row.values.length = c.columns.width) :
    Fits { c with page, remaining := c.remaining - 1 }
      (earlier ++ [⟨payload, rows ++ [row]⟩]) := by
  obtain ⟨more, hmore⟩ : ∃ more, c.remaining = more + 1 := ⟨c.remaining - 1, by omega⟩
  have hlast := h.coming hstate ⟨payload, rows⟩ List.getLast?_concat
  rw [hmore] at hlast
  have hgiven := hlast.give hrow
  obtain ⟨hearlier, -⟩ := List.forall_mem_append.mp h.given
  constructor
  · exact List.forall_mem_append.mpr
      ⟨hearlier, List.forall_mem_singleton.mpr (hgiven.mono (Nat.zero_le _))⟩
  · intro _ d hd
    rw [List.getLast?_concat] at hd
    cases hd
    rw [hmore]
    exact hgiven

end Cursor

namespace Query

open Cursor

variable {q : Query} {client : Client σ} {s after : OpenCursor σ} {draws : List Draw}

theorem readColumns_forward (q : Query) : Forward q.readColumns := by
  have hnames (width : Nat) : Forward (replicate width WireValue.readNullableText) :=
    .replicate width (WireValue.expecting_forward _ (.of_direct WireValue.readText_direct))
  cases q with
  | sqlFields q =>
    refine (Forward.of_direct .length).bind fun width => ?_
    cases q.includeFieldNames with
    | true => exact (hnames width).bind fun _ => .pure _
    | false => exact .pure _
  | sql q => exact .pure _
  | scan q => exact .pure _

/-- The first page of a cursor is a part of the payload that opened it. -/
theorem fits_of_openCursor {payload : Bytes} {cursor : Cursor} {opened : Client σ}
    (hanswer : q.answer? client = some payload) (h : q.openCursor client = .ok cursor opened) :
    cursor.Fits [⟨payload, []⟩] := by
  obtain ⟨octets, response, hoctets, hsend, htake⟩ := openCursor_eq_ok h
  obtain ⟨id, rest, page, columns, hid, hcolumns, hload, -⟩ := takeFrom_eq_ok htake
  have hpayload : response.payload = payload := by
    simpa only [answer?, hoctets, hsend, Option.some.injEq] using hanswer
  have hpage := (readColumns_forward q).suffix hcolumns
  have hrest := (Forward.of_direct (.word Int64)).suffix hid
  show cursor.Fits ([] ++ [⟨payload, []⟩])
  refine Fits.load (by simp) hload ?_
  rw [← hpayload]
  exact (hpage.trans hrest).length_le

/-- **Whatever has been done with a cursor, its payloads hold the rows.** -/
theorem Drawn.fits (h : q.Drawn client draws s) : s.cursor.Fits draws := by
  induction h with
  | opened hanswer hopen => exact fits_of_openCursor hanswer hopen
  | @row earlier payload rows row s after _ hturn ih =>
    cases turned_of_advance hturn with
    | row hstate hrows hread => exact ih.row hstate hrows (length_of_replicate hread)
  | @page draws payload s after _ hanswer hturn ih =>
    cases turned_of_advance hturn with
    | @fetched left response _ _ hask hload =>
      have hpayload : response.payload = payload := by
        simpa only [Cursor.answer?, hask, Option.some.injEq] using hanswer
      refine Fits.load (c := fetching { s.cursor with page := left }) ih.given hload ?_
      rw [hpayload]
  | @finished draws s after _ hturn ih =>
    cases turned_of_advance hturn with
    | finished hhalted => exact ih.halted hhalted
  | @stopped draws s after stop _ hturn ih =>
    cases turned_of_advance hturn with
    | stopped hhalted => exact ih.halted hhalted
  | closed _ ih => exact ih.halted (close_halts _)

theorem Drawn.exists_last (h : q.Drawn client draws s) :
    ∃ earlier payload rows, draws = earlier ++ [⟨payload, rows⟩] := by
  induction h with
  | opened => exact ⟨[], _, _, rfl⟩
  | row => exact ⟨_, _, _, rfl⟩
  | page => exact ⟨_, _, _, rfl⟩
  | finished _ _ ih | stopped _ _ ih | closed _ ih => exact ih

theorem allRows_concat (earlier : List Draw) (payload : Bytes) (rows : List Row) :
    Draw.allRows (earlier ++ [⟨payload, rows⟩]) = Draw.allRows earlier ++ rows := by
  simp [Draw.allRows]

/-- A row that is given is one of the last payload. -/
theorem Drawn.give {row : Row} (h : q.Drawn client draws s)
    (hturn : advance s = .ok (.row row) after) :
    ∃ more, q.Drawn client more after ∧ Draw.allRows more = Draw.allRows draws ++ [row] := by
  obtain ⟨earlier, payload, rows, rfl⟩ := h.exists_last
  refine ⟨_, h.row hturn, ?_⟩
  rw [allRows_concat, allRows_concat, List.append_assoc]

theorem Drawn.fetch (h : q.Drawn client draws s) (hturn : advance s = .ok .fetched after) :
    ∃ more, q.Drawn client more after ∧ Draw.allRows more = Draw.allRows draws := by
  cases turned_of_advance hturn with
  | @fetched left response _ _ hask hload =>
    have hanswer : Cursor.answer? s = some response.payload := by
      simp only [Cursor.answer?, hask]
    refine ⟨_, h.page hanswer hturn, ?_⟩
    rw [allRows_concat, List.append_nil]

/-- The row that a call has given, if any. -/
def rowGiven : EStateM.Result (Stop Error) (OpenCursor σ) (Option Row) → List Row
  | .ok (some row) _ => [row]
  | _ => []

/-- A row that a call gives is one of the payloads, however many turns it takes. -/
theorem Drawn.nextRow (turns : Nat) (h : q.Drawn client draws s) :
    ∃ more, q.Drawn client more (s.after (Cursor.nextRow turns)) ∧
      Draw.allRows more = Draw.allRows draws ++ rowGiven (Cursor.nextRow turns s) := by
  induction turns generalizing draws s with
  | zero => exact ⟨draws, h, (List.append_nil _).symm⟩
  | succ turns ih =>
    unfold OpenCursor.after
    rw [Cursor.nextRow, bind_apply]
    cases hturn : advance s with
    | error stop t => exact ⟨draws, h.stopped hturn, (List.append_nil _).symm⟩
    | ok turn t =>
      cases turn with
      | row row => exact h.give hturn
      | finished => exact ⟨draws, h.finished hturn, (List.append_nil _).symm⟩
      | fetched =>
        obtain ⟨more, hmore, hrows⟩ := h.fetch hturn
        obtain ⟨all, hall, hgiven⟩ := ih hmore
        rw [hrows] at hgiven
        exact ⟨all, hall, hgiven⟩

/-- All that a drain gives is read from rows of the payloads. -/
theorem Drawn.fetchAll {α : Type} {read : Row → Except DecodeError α} {turns : Nat} {as : List α}
    (h : q.Drawn client draws s) (hall : Cursor.fetchAll read turns s = .ok as after) :
    ∃ more rows, q.Drawn client more after ∧ Draw.allRows more = Draw.allRows draws ++ rows ∧
      rows.map read = as.map .ok := by
  induction turns generalizing draws s as with
  | zero => cases hall
  | succ turns ih =>
    cases fetchAll_drains hall with
    | @row row a others t _ hturn hread hrest =>
      obtain ⟨given, hgiven, hrow⟩ := h.give hturn
      obtain ⟨more, rows, hmore, hadded, hmap⟩ := ih hgiven hrest
      refine ⟨more, row :: rows, hmore, ?_, ?_⟩
      · rw [hadded, hrow, List.append_assoc, List.singleton_append]
      · rw [List.map_cons, List.map_cons, hread, hmap]
    | fetched hturn hrest =>
      obtain ⟨given, hgiven, hsame⟩ := h.fetch hturn
      obtain ⟨more, rows, hmore, hadded, hmap⟩ := ih hgiven hrest
      exact ⟨more, rows, hmore, hadded.trans (by rw [hsame]), hmap⟩
    | finished hturn => exact ⟨draws, [], h.finished hturn, (List.append_nil _).symm, rfl⟩

/-- Where there are no columns, every row that a page declares is given, and takes no octet. -/
theorem Drawn.drain {earlier : List Draw} {payload : Bytes} {rows : List Row}
    (h : q.Drawn client (earlier ++ [⟨payload, rows⟩]) s) (hwidth : s.cursor.columns.width = 0)
    (hstate : s.cursor.state = .hasBufferedRows) :
    q.Drawn client
      (earlier ++ [⟨payload,
        rows ++ List.replicate s.cursor.remaining ⟨s.cursor.columns.names, []⟩⟩])
      { s with cursor := { s.cursor with remaining := 0 } } := by
  induction hremaining : s.cursor.remaining generalizing s rows with
  | zero =>
    rw [List.replicate_zero, List.append_nil, ← hremaining]
    exact h
  | succ n ih =>
    have hread : Reader.replicate s.cursor.columns.width WireValue.decode s.cursor.page =
        .ok [] s.cursor.page := by
      rw [hwidth]
      rfl
    have hturn : advance s = .ok (.row ⟨s.cursor.columns.names, []⟩)
        { s with cursor := { s.cursor with remaining := n } } := by
      rw [advance_of_rows hstate (by omega), map_apply, decodeRow_of_ok hread, hremaining]
      rfl
    have hrest := ih (h.row hturn) hwidth hstate rfl
    rw [List.append_assoc, List.singleton_append] at hrest
    exact hrest

/-- Every cursor that is opened has taken the payload that answers its query. -/
theorem exists_drawn_of_openCursor {cursor : Cursor} {opened : Client σ}
    (h : q.openCursor client = .ok cursor opened) :
    ∃ payload, q.Drawn client [⟨payload, []⟩] ⟨cursor, opened⟩ := by
  obtain ⟨octets, response, hoctets, hsend, -⟩ := openCursor_eq_ok h
  have hanswer : q.answer? client = some response.payload := by
    simp only [answer?, hoctets, hsend]
  exact ⟨response.payload, .opened hanswer h⟩

/-- **What is fetched at once has been read from rows of the payloads.** -/
theorem fetchAll_drawn {α : Type} {read : Row → Except DecodeError α} {turns : Nat} {as : List α}
    {last : Client σ} (h : q.fetchAll read turns client = .ok as last) :
    ∃ draws s, q.Drawn client draws s ∧ (Draw.allRows draws).map read = as.map .ok ∧
      last = s.cursor.drop s.client := by
  obtain ⟨cursor, opened, t, hopen, hall, rfl⟩ := consume_eq_ok h
  obtain ⟨payload, hopened⟩ := exists_drawn_of_openCursor hopen
  obtain ⟨draws, rows, hdrawn, hrows, hmap⟩ := hopened.fetchAll hall
  refine ⟨draws, t, hdrawn, ?_, rfl⟩
  rw [hrows]
  exact hmap

/-- **No payload gives more rows than it has octets, if the rows have columns**, whatever it
declares: each value takes an octet, and the count of the page is held against that. Every row that
a call gives is one of the payloads, and so is every row that is fetched at once. Only where there
are no columns, all rows that are declared are given, and take no octet. -/
theorem Drawn.rows_le (h : q.Drawn client draws s) :
    (∀ d ∈ draws, d.rows.length * s.cursor.columns.width + 4 ≤ d.payload.length ∧
        d.rows.length ≤ greatestCount ∧
        (s.cursor.columns.width ≠ 0 → d.rows.length ≤ d.payload.length)) ∧
      (∀ turns, ∃ more, q.Drawn client more (s.after (Cursor.nextRow turns)) ∧
        Draw.allRows more = Draw.allRows draws ++ rowGiven (Cursor.nextRow turns s)) ∧
      (∀ (α : Type) (read : Row → Except DecodeError α) turns as after,
        Cursor.fetchAll read turns s = .ok as after →
          ∃ more rows, q.Drawn client more after ∧
            Draw.allRows more = Draw.allRows draws ++ rows ∧ rows.map read = as.map .ok) ∧
      (s.cursor.columns.width = 0 → s.cursor.state = .hasBufferedRows →
        ∃ earlier payload rows, draws = earlier ++ [⟨payload, rows⟩] ∧
          q.Drawn client
            (earlier ++ [⟨payload,
              rows ++ List.replicate s.cursor.remaining ⟨s.cursor.columns.names, []⟩⟩])
            { s with cursor := { s.cursor with remaining := 0 } }) := by
  refine ⟨fun d hd => ?_, fun turns => h.nextRow turns, fun α read turns as after hall =>
    h.fetchAll hall, fun hwidth hstate => ?_⟩
  · have hholds := h.fits.given d hd
    refine ⟨hholds.room, hholds.counted, fun hwidth => ?_⟩
    have hroom : d.rows.length * s.cursor.columns.width + 4 ≤ d.payload.length := hholds.room
    have hmul := Nat.le_mul_of_pos_right d.rows.length (Nat.pos_of_ne_zero hwidth)
    omega
  · obtain ⟨earlier, payload, rows, rfl⟩ := h.exists_last
    exact ⟨earlier, payload, rows, rfl, h.drain hwidth hstate⟩

/-- A statement whose columns are not named. -/
def nameless : Query :=
  .sqlFields { sql := "", includeFieldNames := false }

/-- The server opens cursor 7 with one column, and sends its only page with its only row. -/
def oneThree : Client Rehearsal.ScriptedPeer :=
  Fails.answeredBy
    [{ reply := .response [7, 0, 0, 0, 0, 0, 0, 0, 1, 0, 0, 0, 1, 0, 0, 0, 1, 3, 0] 0 0 }]

set_option maxRecDepth 4096 in
theorem rows_le_oneThree :
    ∃ draws s, nameless.Drawn oneThree draws s ∧ Draw.allRows draws = [⟨[], [.byte 3]⟩] ∧
      ∀ d ∈ draws, d.rows.length ≤ d.payload.length := by
  have hopen : nameless.openCursor oneThree =
      .ok ⟨7, .querySqlFieldsPage, ⟨[], 1⟩, [1, 3, 0], 1, .hasBufferedRows⟩
        (oneThree.after nameless.openCursor) := by cbv
  have hanswer : nameless.answer? oneThree =
      some [7, 0, 0, 0, 0, 0, 0, 0, 1, 0, 0, 0, 1, 0, 0, 0, 1, 3, 0] := by cbv
  obtain ⟨-, hnext, -⟩ := (Drawn.opened hanswer hopen).rows_le
  obtain ⟨draws, hdrawn, hrows⟩ := hnext 1
  obtain ⟨hle, -⟩ := hdrawn.rows_le
  exact ⟨draws, _, hdrawn, hrows, fun d hd => (hle d hd).2.2 Nat.one_ne_zero⟩

/-- The server opens cursor 7 without columns, and says that its only page has twenty rows. -/
def twentyVoid : Client Rehearsal.ScriptedPeer :=
  Fails.answeredBy [{ reply := .response [7, 0, 0, 0, 0, 0, 0, 0, 0, 0, 0, 0, 20, 0, 0, 0, 0] 0 0 }]

set_option maxRecDepth 4096 in
/-- Seventeen octets give twenty rows. -/
theorem rows_gt_twentyVoid :
    (∃ draws s, nameless.Drawn twentyVoid draws s ∧
        ∃ d ∈ draws, d.payload.length = 17 ∧ d.rows.length = 20) ∧
      ∃ last, nameless.fetchAll (fun _ => .ok ()) 21 twentyVoid =
        .ok (List.replicate 20 ()) last := by
  have hopen : nameless.openCursor twentyVoid =
      .ok ⟨7, .querySqlFieldsPage, ⟨[], 0⟩, [0], 20, .hasBufferedRows⟩
        (twentyVoid.after nameless.openCursor) := by cbv
  have hanswer : nameless.answer? twentyVoid =
      some [7, 0, 0, 0, 0, 0, 0, 0, 0, 0, 0, 0, 20, 0, 0, 0, 0] := by cbv
  have hall : nameless.fetchAll (fun _ => .ok ()) 21 twentyVoid = .ok (List.replicate 20 ())
      (twentyVoid.after (nameless.fetchAll (fun _ => .ok ()) 21)) := by cbv
  have hopened : nameless.Drawn twentyVoid ([] ++ [⟨_, []⟩]) _ := .opened hanswer hopen
  exact ⟨⟨_, _, hopened.drain rfl rfl, _, List.mem_singleton_self _, rfl, rfl⟩, _, hall⟩

end Query

end ThinClient
