import ThinClient.Proofs.Query.Lifetime
import ThinClient.Proofs.Query.Paging

/-!
# The first row alone

A query for all rows and a query for the first row send the same request and take the same turns,
until there is a row. The first query then goes on to the last page, and the second closes its
cursor, if it has to: what is left of the page ends with the octet that says so.

* `Cursor.Amid.turned` is what a turn has come to that did not fail, and `Cursor.Amid.over` is a
  drain that gave all rows, whatever they are read as.
* `Cursor.Amid.first` finds the first row of such a drain, behind blank pages.
* `Cursor.Amid.closeQuietly` is a cursor that is left on its way: it is closed exactly if its page
  is not the last one.
* `Query.fetchFirst?_of_fetchAll`: **the first row alone is the first of all rows**, and is asked
  for as all rows are, up to its page.
-/

namespace ThinClient

open Connection

/-! ## Chains of pages -/

/-- In a chain every page says whether others follow it. -/
theorem Page.Chained.of_append {more : UInt8} {page : Page} {front later : List Page}
    (h : Page.Chained more (front ++ page :: later)) : Page.Chained page.more later := by
  induction front generalizing more with
  | nil => exact h.2
  | cons _ front ih => exact ih h.2

theorem Page.Chained.eq_nil_iff {more : UInt8} {later : List Page} (h : Page.Chained more later) :
    later = [] ↔ more = 0 := by
  cases later with
  | nil => exact iff_of_true rfl h
  | cons page later => exact iff_of_false (List.cons_ne_nil _ _) h.1

/-- A page of a result is the last one exactly if it says so. -/
theorem Page.Chained.last_iff {first page : Page} {rest front later : List Page}
    (h : Page.Chained first.more rest) (hpages : first :: rest = front ++ page :: later) :
    later = [] ↔ page.more = 0 := by
  have hall : Page.Chained 1 (first :: rest) := ⟨by decide, h⟩
  rw [hpages] at hall
  exact hall.of_append.eq_nil_iff

/-- There is only one page behind blank ones. -/
theorem Page.first_unique {blanks blanks' later later' : List Page} {page page' : Page}
    (h : blanks ++ page :: later = blanks' ++ page' :: later')
    (hblanks : ∀ blank ∈ blanks, blank.rows = []) (hrows : page.rows ≠ [])
    (hblanks' : ∀ blank ∈ blanks', blank.rows = []) (hrows' : page'.rows ≠ []) :
    blanks = blanks' ∧ page = page' ∧ later = later' := by
  induction blanks generalizing blanks' with
  | nil =>
    cases blanks' with
    | nil => exact ⟨rfl, List.cons.inj h⟩
    | cons blank rest =>
      have hpage : page = blank := (List.cons.inj h).1
      exact absurd (hblanks' page (hpage ▸ List.mem_cons_self)) hrows
  | cons blank rest ih =>
    cases blanks' with
    | nil =>
      have hpage : blank = page' := (List.cons.inj h).1
      exact absurd (hblanks page' (hpage ▸ List.mem_cons_self)) hrows'
    | cons blank' rest' =>
      obtain ⟨rfl, hrest⟩ := List.cons.inj h
      obtain ⟨rfl, hlater⟩ := ih hrest (List.forall_mem_cons.mp hblanks).2
        (List.forall_mem_cons.mp hblanks').2
      exact ⟨rfl, hlater⟩

/-- Nothing is deferred once the deferred closes have been sent. -/
theorem Connection.free_of_closePending {server : Server} {client clear : Client (Line server)}
    (hclient : Serving client) (h : closePending client = .ok () clear) : Free clear := by
  obtain ⟨clear', hclear, hserving, -, hnone⟩ := closePending_line hclient
  cases h.symm.trans hclear
  exact ⟨hserving, hnone⟩

namespace Cursor

variable {server : Server}

theorem length_pageRounds (pageOp : Operation) (id : Int64) (ids : IdSource) (pages : List Page) :
    (pageRounds pageOp id ids pages).length = pages.length := by
  induction pages generalizing ids with
  | nil => rfl
  | cons page pages ih => exact congrArg (· + 1) (ih ids.next.2)

theorem id_of_nextRow {σ : Type} [Peer σ] {s after : OpenCursor σ} {turns : Nat}
    {row? : Option Row} (h : nextRow turns s = .ok row? after) :
    after.cursor.id = s.cursor.id := by
  have hkept := (unclosed_laws s).nextRow turns (.refl s)
  rw [h] at hkept
  exact hkept.id_eq

variable {s after t : OpenCursor (Line server)} {columns : Columns} {script : List Round}
  {left : List (List TaggedValue)} {upcoming pages : List Page} {turn : Turn}

/-! ## Turns that succeed -/

/-- What a turn has come to that has not failed. -/
inductive Amid.Turned (columns : Columns) (script : List Round) (left : List (List TaggedValue))
    (upcoming : List Page) : Turn → OpenCursor (Line server) → Prop
  | row {row : List TaggedValue} {rest : List (List TaggedValue)} {values : List WireValue}
    {after : OpenCursor (Line server)} (hleft : left = row :: rest)
    (hafter : Amid columns script rest upcoming after) :
    Turned columns script left upcoming (.row ⟨columns.names, values⟩) after
  | fetched {page : Page} {pages : List Page} {after : OpenCursor (Line server)} (hleft : left = [])
    (hupcoming : upcoming = page :: pages) (hafter : Amid columns script page.rows pages after) :
    Turned columns script left upcoming .fetched after
  | finished {after : OpenCursor (Line server)} (hleft : left = []) (hupcoming : upcoming = [])
    (hafter : Over script after) : Turned columns script left upcoming .finished after

theorem Amid.turned (h : Amid columns script left upcoming s)
    (hturn : advance s = .ok turn after) : Amid.Turned columns script left upcoming turn after := by
  cases left with
  | cons row left =>
    cases hread : Reader.replicate s.cursor.columns.width WireValue.decode s.cursor.page with
    | ok values page =>
      obtain ⟨after', hadvance, hafter⟩ := h.taken hread
      cases hturn.symm.trans hadvance
      exact .row rfl hafter
    | error cause page =>
      have hremaining : 0 < s.cursor.remaining := h.remaining_eq ▸ Nat.succ_pos _
      obtain ⟨stop, after', habort, -⟩ :=
        abort_stops Row cause { s with cursor := { s.cursor with page } }
      rw [advance_of_rows h.state_eq hremaining, map_apply, decodeRow_of_error hread,
        habort] at hturn
      cases hturn
  | nil =>
    cases upcoming with
    | cons page pages =>
      obtain ⟨after', hadvance, hafter⟩ := h.fetch
      cases hturn.symm.trans hadvance
      exact .fetched rfl rfl hafter
    | nil =>
      obtain ⟨after', hadvance, hafter⟩ := h.last
      cases hturn.symm.trans hadvance
      exact .finished rfl rfl hafter

/-! ## From all rows to the first -/

variable {α : Type} {read : Row → Except DecodeError α} {turns : Nat} {as : List α}

/-- A drain that gives all rows takes all pages, whatever the rows are read as. -/
theorem Amid.over (h : Amid columns script left upcoming s)
    (hall : fetchAll read turns s = .ok as t) : Over script t := by
  induction turns generalizing left upcoming s as with
  | zero => cases hall
  | succ turns ih =>
    cases fetchAll_drains hall with
    | row hturn _ hrest =>
      cases h.turned hturn with
      | row _ hafter => exact ih hafter hrest
    | fetched hturn hrest =>
      cases h.turned hturn with
      | fetched _ _ hafter => exact ih hafter hrest
    | finished hturn =>
      cases h.turned hturn with
      | finished _ _ hafter => exact hafter

/-- Where the first row is found among pages of which all rows can be fetched: nowhere, or on a page
behind blank ones. -/
inductive First (columns : Columns) (script : List Round) (pages : List Page)
    (read : Row → Except DecodeError α) (s : OpenCursor (Line server)) :
    List α → OpenCursor (Line server) → Prop
  | none {t : OpenCursor (Line server)}
    (hnext : ∀ turns, pages.length ≤ turns → nextRow turns s = .ok none t) :
    First columns script pages read s [] t
  | row {blanks later : List Page} {page : Page} {row : Row} {a : α} {others : List α}
    {left : List (List TaggedValue)} {after t : OpenCursor (Line server)}
    (hpages : pages = blanks ++ page :: later) (hblanks : ∀ blank ∈ blanks, blank.rows = [])
    (hrows : page.rows ≠ []) (hread : read row = .ok a)
    (hnext : ∀ turns, pages.length ≤ turns → nextRow turns s = .ok (some row) after)
    (hafter : Amid columns script left later after) :
    First columns script pages read s (a :: others) t

/-- A turn at the end of a blank page makes no difference. -/
theorem First.behind {page : Page} (h : First columns script pages read after as t)
    (hblank : page.rows = []) (hturn : advance s = .ok .fetched after) :
    First columns script (page :: pages) read s as t := by
  have hnext (turns : Nat) (hturns : (page :: pages).length ≤ turns) :
      ∃ fewer, nextRow turns s = nextRow fewer after ∧ pages.length ≤ fewer := by
    obtain ⟨fewer, rfl⟩ := Nat.exists_eq_add_of_le' (Nat.one_le_of_lt hturns)
    exact ⟨fewer, nextRow_of_fetched hturn fewer, Nat.le_of_succ_le_succ hturns⟩
  cases h with
  | none h =>
    refine .none fun turns hturns => ?_
    obtain ⟨fewer, heq, hle⟩ := hnext turns hturns
    rw [heq, h fewer hle]
  | row hpages hblanks hrows hread h hafter =>
    refine .row (congrArg (page :: ·) hpages) (List.forall_mem_cons.mpr ⟨hblank, hblanks⟩) hrows
      hread (fun turns hturns => ?_) hafter
    obtain ⟨fewer, heq, hle⟩ := hnext turns hturns
    rw [heq, h fewer hle]

theorem Amid.first {page : Page} (h : Amid columns script page.rows upcoming s)
    (hall : fetchAll read turns s = .ok as t) :
    First columns script (page :: upcoming) read s as t := by
  -- Rows are only left at the start of a page: the first turn that gives a row ends the search.
  induction turns generalizing page upcoming s with
  | zero => cases hall
  | succ turns ih =>
    cases fetchAll_drains hall with
    | row hturn hread hrest =>
      cases h.turned hturn with
      | row hleft hafter =>
        have hpages : page :: upcoming = [] ++ page :: upcoming := rfl
        have hrows : page.rows ≠ [] := hleft ▸ List.cons_ne_nil _ _
        refine .row hpages (List.forall_mem_nil _) hrows hread (fun n hn => ?_) hafter
        obtain ⟨fewer, rfl⟩ := Nat.exists_eq_add_of_le' (Nat.one_le_of_lt hn)
        exact nextRow_of_row hturn fewer
    | fetched hturn hrest =>
      cases h.turned hturn with
      | fetched hleft hupcoming hafter =>
        subst hupcoming
        exact (ih hafter hrest).behind hleft hturn
    | finished hturn =>
      refine .none fun n hn => ?_
      obtain ⟨fewer, rfl⟩ := Nat.exists_eq_add_of_le' (Nat.one_le_of_lt hn)
      exact nextRow_of_finished hturn fewer

/-! ## A page that is left -/

/-- How much has been asked on the way: all but what is upcoming. -/
theorem Amid.past_eq {before said : List Round} {asked : Nat}
    (h : Amid columns (before ++ said) left upcoming s)
    (hsaid : said.length = asked + upcoming.length) :
    past s.client = before ++ said.take asked := by
  have hlength : (past s.client).length = before.length + asked := by
    have hscript := congrArg List.length h.script_eq
    simp only [List.length_append, length_pageRounds] at hscript
    omega
  calc past s.client = (before ++ said).take (past s.client).length := by
        rw [← h.script_eq, List.take_left]
    _ = before ++ said.take asked := by rw [hlength, List.take_length_add_append]

/-- Before the end of its last page a cursor is known to be released, before that of another it is
not. -/
theorem Amid.isReleased_iff (h : Amid columns script left upcoming s) :
    s.cursor.isReleased = true ↔ upcoming = [] := by
  obtain ⟨more, hpage, hchained⟩ := h.page_eq
  rw [hchained.eq_nil_iff, isReleased, h.state_eq, hpage]
  simp

/-- A cursor that is left on its way is closed at the server unless its last page has come. -/
theorem Amid.closeQuietly (h : Amid columns script left upcoming s) :
    ∃ after, Cursor.closeQuietly s = .ok () after ∧ after.cursor.state.isFinal = true ∧
      after.client.connection.pendingClose = [] ∧
      (upcoming = [] → past after.client = past s.client) ∧
      (upcoming ≠ [] → ∃ answer, past after.client =
        past s.client ++ [⟨closeRequest s.client s.cursor.id, answer⟩]) := by
  have hopen : s.cursor.state.isFinal = false := by rw [h.state_eq]; rfl
  by_cases hlast : upcoming = []
  · refine ⟨_, closeQuietly_of_ok (close_of_released hopen (h.isReleased_iff.mpr hlast)), rfl,
      h.free.pendingClose_eq, fun _ => rfl, absurd hlast⟩
  · have hheld : s.cursor.isReleased = false :=
      Bool.eq_false_iff.mpr fun hreleased => hlast (h.isReleased_iff.mp hreleased)
    obtain ⟨client, hasked, hcall⟩ := closeResource_asked h.free.serving s.cursor.id
    have hpending := hasked.pendingClose_eq.trans h.free.pendingClose_eq
    have hclose := close_of_open hopen hheld
    rcases hcall with hcall | ⟨e, -, hcall⟩
    · simp only [onClient, hcall] at hclose
      exact ⟨_, closeQuietly_of_ok hclose, rfl, hpending, fun hnil => absurd hnil hlast,
        fun _ => ⟨_, hasked.past_eq⟩⟩
    · simp only [onClient, hcall] at hclose
      exact ⟨_, closeQuietly_of_failed hclose, rfl, hpending, fun hnil => absurd hnil hlast,
        fun _ => ⟨_, hasked.past_eq⟩⟩

end Cursor

namespace Query

variable {server : Server} {client clear last : Client (Line server)} {q : Query}
  {payload columnOctets : Bytes} {id : Int64} {first : Page} {rest : List Page} {α : Type}
  {read : Row → Except DecodeError α} {turns : Nat} {as : List α}

theorem length_script :
    (q.script client clear payload id columnOctets first rest).length = (first :: rest).length :=
  congrArg (· + 1) (Cursor.length_pageRounds _ _ _ rest)

/-- A query whose cursor comes about has been written. -/
theorem frame_of_openCursor {cursor : Cursor} {after : Client (Line server)} (hclear : Free clear)
    (hpending : closePending (tookId client) = .ok () clear)
    (hpayload : q.payload client.connection.config.pageSize = .ok payload)
    (hopen : q.openCursor client = .ok cursor after) :
    ∃ octets, (q.openRequest client payload).frame = .ok octets := by
  obtain ⟨_, response, hpayload', hsend, -⟩ := openCursor_eq_ok hopen
  cases hpayload.symm.trans hpayload'
  cases hframe : (q.openRequest client payload).frame with
  | ok octets => exact ⟨octets, rfl⟩
  | error e =>
    rw [sendAndReceive_of_pending hpending,
      roundTrip_of_unwritable hclear.serving.ready hframe] at hsend
    cases hsend

/-- A query that has come about opens a cursor with the first page. -/
theorem openCursor_amid_of_ok {cursor : Cursor} {opened : Client (Line server)} (hfree : Free clear)
    (hpending : closePending (tookId client) = .ok () clear)
    (hpayload : q.payload client.connection.config.pageSize = .ok payload)
    (hplays : server.Plays (past clear) (q.script client clear payload id columnOctets first rest))
    (hchained : Page.Chained first.more rest)
    (hwidth : ∀ page ∈ rest, page.width = first.width)
    (hopen : q.openCursor client = .ok cursor opened) :
    cursor.id = id ∧ Cursor.Amid cursor.columns
      (past clear ++ q.script client clear payload id columnOctets first rest) first.rows rest
      ⟨cursor, opened⟩ := by
  obtain ⟨octets, hframe⟩ := frame_of_openCursor hfree hpending hpayload hopen
  obtain ⟨cursor', opened', hopen', hid, -, -, hamid⟩ :=
    openCursor_amid hfree hpending hpayload hframe hplays hchained hwidth
  cases hopen.symm.trans hopen'
  exact ⟨hid, hamid⟩

/-- **The first row alone is the first of all rows**, or there is none, and what is asked for it is
what is asked for all rows up to the page that brings it. Then the cursor is closed, once, if this
page says that there are others, and nothing is asked if it does not. -/
theorem fetchFirst?_of_fetchAll (hclient : Serving client)
    (hpending : closePending (tookId client) = .ok () clear)
    (hpayload : q.payload client.connection.config.pageSize = .ok payload)
    (hplays : server.Plays (past clear) (q.script client clear payload id columnOctets first rest))
    (hchained : Page.Chained first.more rest)
    (hwidth : ∀ page ∈ rest, page.width = first.width)
    (hall : q.fetchAll read turns client = .ok as last) :
    let said := q.script client clear payload id columnOctets first rest
    past last = past clear ++ said ∧ last.connection.pendingClose = [] ∧
      ∀ enough, rest.length < enough →
        (as = [] → q.fetchFirst? read enough client = .ok none last ∧
          q.fetchOne read enough client = .error (.failed { kind := .rowNotFound }) last) ∧
        ∀ a others, as = a :: others → ∃ blanks page later after,
          first :: rest = blanks ++ page :: later ∧ (∀ blank ∈ blanks, blank.rows = []) ∧
          page.rows ≠ [] ∧ q.fetchFirst? read enough client = .ok (some a) after ∧
          q.fetchOne read enough client = .ok a after ∧ after.connection.pendingClose = [] ∧
          (page.more = 0 → past after = past clear ++ said.take (blanks.length + 1)) ∧
          (page.more ≠ 0 → ∃ n answer, past after = past clear ++ said.take (blanks.length + 1) ++
            [⟨⟨.resourceClose, n, Word.encode id⟩, answer⟩]) := by
  intro said
  have htook : Serving (tookId client) := ⟨hclient.ready, hclient.quiet⟩
  have hfree := free_of_closePending htook hpending
  obtain ⟨cursor, opened, t, hopen, hdrain, hlast⟩ := consume_eq_ok hall
  obtain ⟨hid, hamid⟩ :=
    openCursor_amid_of_ok hfree hpending hpayload hplays hchained hwidth hopen
  have hover := hamid.over hdrain
  rw [hover.drop] at hlast
  subst hlast
  refine ⟨hover.past_eq, hover.free.pendingClose_eq, fun enough henough => ?_⟩
  -- Up to the first row both calls take the same turns, so the drain tells where this row is.
  cases hamid.first hdrain with
  | none hnext =>
    have hfinal : t.cursor.state.isFinal = true := by rw [hover.state_eq]; rfl
    have hfirst : Cursor.fetchFirst? read enough ⟨cursor, opened⟩ = .ok none t :=
      Cursor.fetchFirst?_of_none (hnext enough henough)
    have hone := Cursor.fetchOne_of_none hfirst
    refine ⟨fun _ => ⟨consume_of_ok hopen hfirst hfinal, consume_of_error hopen hone hfinal⟩, ?_⟩
    rintro a others ⟨⟩
  | @row blanks later page row _ _ left s _ hpages hblanks hrows hread hnext hafter =>
    refine ⟨fun hnil => absurd hnil (List.cons_ne_nil _ _), ?_⟩
    rintro a others ⟨⟩
    have hsaid : said.length = blanks.length + 1 + later.length := by
      have hscript : said.length = (first :: rest).length := length_script
      rw [hscript, hpages, List.length_append, List.length_cons]
      omega
    have hlater : later = [] ↔ page.more = 0 := hchained.last_iff hpages
    have hid : s.cursor.id = id := (Cursor.id_of_nextRow (hnext enough henough)).trans hid
    obtain ⟨after, hclose, hfinal, hnone, hreleased, hheld⟩ := hafter.closeQuietly
    rw [hafter.past_eq hsaid] at hreleased hheld
    have hfirst := Cursor.fetchFirst?_of_row (hnext enough henough) hread hclose
    have hone := Cursor.fetchOne_of_some hfirst
    refine ⟨blanks, page, later, after.client, hpages, hblanks, hrows,
      consume_of_ok hopen hfirst hfinal, consume_of_ok hopen hone hfinal, hnone,
      fun hmore => hreleased (hlater.mpr hmore), fun hmore => ?_⟩
    obtain ⟨answer, hasked⟩ := hheld fun hnil => hmore (hlater.mp hnil)
    rw [hid] at hasked
    exact ⟨_, answer, hasked⟩

end Query

namespace Session

/-- A client on a line to a server of four pages that still has something to close. -/
def oneToClose : Client (Line fourPages) :=
  { reader with connection := { reader.connection with pendingClose := [5] } }

/-- The same client when it has taken the id of its next request and closed what it had to. -/
def cleared : Client (Line fourPages) :=
  (tookId oneToClose).after closePending

theorem past_cleared :
    past cleared = [⟨⟨.resourceClose, 2, Word.encode (5 : Int64)⟩, .done []⟩] := by
  cbv

/-- The payload of the scan of this server. -/
def scanPayload : Bytes :=
  [99, 0, 0, 0, 0, 101, 0, 4, 0, 0, 255, 255, 255, 255, 0]

/-- The first of four pages has an entry, behind which the cursor is closed. With the deferred close
the server gets to its last page sooner: there are two blank pages before it then, and there is
nothing to close behind its entry. -/
theorem fetchFirst?_of_fetchAll_fourPages :
    (∃ after n answer,
      fourPagesScan.fetchFirst? .ok 4 reader =
        .ok (some ⟨["_KEY", "_VAL"], [.null, .bool false]⟩) after ∧
      past after = fourPagesScan.script reader (tookId reader) scanPayload 7 [] (pageOfFour 0) [] ++
        [⟨⟨.resourceClose, n, Word.encode (7 : Int64)⟩, answer⟩]) ∧
    ∃ after,
      fourPagesScan.fetchOne .ok 3 oneToClose = .ok ⟨["_KEY", "_VAL"], [.bool true, .null]⟩ after ∧
      past after = past cleared ++
        fourPagesScan.script oneToClose cleared scanPayload 7 [] (pageOfFour 1)
          [pageOfFour 2, pageOfFour 3] := by
  have hpayload : fourPagesScan.payload reader.connection.config.pageSize = .ok scanPayload := by
    cbv
  constructor
  · have hplays : fourPages.Plays (past (tookId reader))
        (fourPagesScan.script reader (tookId reader) scanPayload 7 [] (pageOfFour 0)
          [pageOfFour 1, pageOfFour 2, pageOfFour 3]) :=
      ⟨rfl, rfl, rfl, rfl, trivial⟩
    have hchained : Page.Chained (pageOfFour 0).more
        [pageOfFour 1, pageOfFour 2, pageOfFour 3] := by
      refine ⟨?_, ?_, ?_, rfl⟩ <;> decide
    have hall : fourPagesScan.fetchAll .ok 6 reader = .ok [⟨["_KEY", "_VAL"], [.null, .bool false]⟩,
        ⟨["_KEY", "_VAL"], [.bool true, .null]⟩] (reader.after (fourPagesScan.fetchAll .ok 6)) := by
      cbv
    obtain ⟨-, -, hfirst⟩ := Query.fetchFirst?_of_fetchAll ⟨rfl, ⟨rfl, rfl, rfl, rfl⟩⟩ rfl
      hpayload hplays hchained (by simp [width_pageOfFour]) hall
    obtain ⟨blanks, page, later, after, hpages, hblanks, hrows, hcall, -, -, -, hclosed⟩ :=
      (hfirst 4 (by decide)).2 _ _ rfl
    have hfront : [] ++ pageOfFour 0 :: [pageOfFour 1, pageOfFour 2, pageOfFour 3] =
        blanks ++ page :: later := hpages
    obtain ⟨rfl, rfl, -⟩ := Page.first_unique hfront (List.forall_mem_nil _)
      (List.cons_ne_nil _ _) hblanks hrows
    obtain ⟨n, answer, hpast⟩ := hclosed (by decide)
    exact ⟨after, n, answer, hcall, hpast⟩
  · have hplays : fourPages.Plays (past cleared) (fourPagesScan.script oneToClose cleared
        scanPayload 7 [] (pageOfFour 1) [pageOfFour 2, pageOfFour 3]) := by
      rw [past_cleared]
      exact ⟨rfl, rfl, rfl, trivial⟩
    have hchained : Page.Chained (pageOfFour 1).more [pageOfFour 2, pageOfFour 3] := by
      refine ⟨?_, ?_, rfl⟩ <;> decide
    have hpending : closePending (tookId oneToClose) = .ok () cleared := by cbv
    have hall : fourPagesScan.fetchAll .ok 4 oneToClose =
        .ok [⟨["_KEY", "_VAL"], [.bool true, .null]⟩]
          (oneToClose.after (fourPagesScan.fetchAll .ok 4)) := by cbv
    obtain ⟨-, -, hfirst⟩ := Query.fetchFirst?_of_fetchAll ⟨rfl, ⟨rfl, rfl, rfl, rfl⟩⟩ hpending
      hpayload hplays hchained (by simp [width_pageOfFour]) hall
    obtain ⟨blanks, page, later, after, hpages, hblanks, hrows, -, hcall, -, hreleased, -⟩ :=
      (hfirst 3 (by decide)).2 _ _ rfl
    have hfront : [pageOfFour 1, pageOfFour 2] ++ pageOfFour 3 :: [] =
        blanks ++ page :: later := hpages
    obtain ⟨rfl, rfl, -⟩ := Page.first_unique hfront (by simp [pageOfFour, blankPage])
      (List.cons_ne_nil _ _) hblanks hrows
    exact ⟨after, hcall, hreleased rfl⟩

end Session

end ThinClient
