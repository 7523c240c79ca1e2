import ThinClient.Proofs.Query.Calls

/-!
# What the calls of a cursor keep

All calls of a cursor are made of three things: a page is asked for, what is left of the page
changes, and the cursor is closed because a page or a row cannot be read. What these keep, every
call keeps, however many turns it takes.

* `Leaves` is what a call has left behind: one thing with a value, another with a failure.
* `Cursor.Laws` are two such things that the three keep. `Cursor.Laws.advance` is a turn,
  `Cursor.Laws.nextRow` and `Cursor.Laws.fetchAll` are turns up to the end of a call, and
  `Cursor.Laws.takeOver` is a cursor that does not come about.
* `Query.Laws` are about the client alone, and are also kept when a query is sent and when a cursor
  is dropped. **Whatever fails then, `Query.Laws.fetch` says what it leaves behind.**
-/

namespace ThinClient

open Connection

variable {σ τ α β : Type}

/-- What a call has left behind: the first with a value, the second with a failure. -/
def Leaves (Good : τ → Prop) (Bad : Error → τ → Prop) : EStateM.Result (Stop Error) τ α → Prop
  | .ok _ t => Good t
  | .error (.failed e) t => Bad e t
  | .error .cancelled _ => True

namespace Leaves

variable {Good : τ → Prop} {Bad : Error → τ → Prop} {t : τ} {call : EStateM (Stop Error) τ α}

theorem bind {next : α → EStateM (Stop Error) τ β} (h : Leaves Good Bad (call t))
    (hnext : ∀ a t, Good t → Leaves Good Bad (next a t)) :
    Leaves Good Bad ((call >>= next) t) := by
  rw [bind_apply]
  cases hcall : call t with
  | ok a t' =>
    rw [hcall] at h
    exact hnext a t' h
  | error stop t' =>
    rw [hcall] at h
    cases stop <;> exact h

/-- What comes second may leave anything behind with a value. -/
theorem bind_failed {next : α → EStateM (Stop Error) τ β} {e : Error} {after : τ}
    (h : Leaves Good Bad (call t))
    (hnext : ∀ a t, Good t → next a t = .error (.failed e) after → Bad e after)
    (hfailed : (call >>= next) t = .error (.failed e) after) : Bad e after := by
  rw [bind_apply] at hfailed
  cases hcall : call t with
  | ok a t' =>
    rw [hcall] at h hfailed
    exact hnext a t' h hfailed
  | error stop t' =>
    rw [hcall] at h hfailed
    cases hfailed
    exact h

theorem map (h : Leaves Good Bad (call t)) (f : α → β) : Leaves Good Bad ((f <$> call) t) := by
  rw [map_apply]
  cases hcall : call t with
  | ok a t' => rwa [hcall] at h
  | error stop t' =>
    rw [hcall] at h
    cases stop <;> exact h

end Leaves

namespace Cursor

variable [Peer σ]

/-- What is kept by all that the calls of a cursor are made of. -/
structure Laws (Good : OpenCursor σ → Prop) (Bad : Error → OpenCursor σ → Prop) : Prop where
  /-- What is left of the page makes no difference, and where the cursor is in its life. -/
  cursor {s : OpenCursor σ} {c : Cursor} (h : Good s) (hid : c.id = s.cursor.id)
    (hop : c.pageOp = s.cursor.pageOp) : Good { s with cursor := c }
  ask {s : OpenCursor σ} (h : Good s) :
    Leaves Good Bad (orAbort (sendAndReceive (pageRequest s)) ⟨fetching s.cursor, tookId s.client⟩)
  /-- A page or a row cannot be read. -/
  abort {α : Type} {s : OpenCursor σ} (cause : DecodeError) (h : Good s) :
    Leaves Good Bad (Cursor.abort (α := α) cause s)

namespace Laws

variable {Good : OpenCursor σ → Prop} {Bad : Error → OpenCursor σ → Prop} {s after : OpenCursor σ}
  {e : Error} (laws : Laws Good Bad)

include laws

theorem loadPage (page : Bytes) (h : Good s) : Leaves Good Bad (Cursor.loadPage page s) := by
  cases hload : s.cursor.load page with
  | ok cursor =>
    obtain ⟨hid, hop⟩ := load_keeps hload
    rw [loadPage_of_ok hload]
    exact laws.cursor h hid hop
  | error cause =>
    rw [loadPage_of_error hload]
    exact laws.abort cause h

theorem fetchPage (h : Good s) : Leaves Good Bad (Cursor.fetchPage s) := by
  change Leaves Good Bad ((orAbort (sendAndReceive (pageRequest s)) >>=
    fun response => Cursor.loadPage response.payload) ⟨fetching s.cursor, tookId s.client⟩)
  exact (laws.ask h).bind fun response t ht => laws.loadPage response.payload ht

theorem decodeRow (h : Good s) : Leaves Good Bad (Cursor.decodeRow s) := by
  cases hvalues : Reader.replicate s.cursor.columns.width WireValue.decode s.cursor.page with
  | ok values page =>
    rw [decodeRow_of_ok hvalues]
    exact laws.cursor h rfl rfl
  | error cause page =>
    rw [decodeRow_of_error hvalues]
    exact laws.abort cause (laws.cursor h rfl rfl)

/-- A turn of a cursor keeps it. -/
theorem advance (h : Good s) : Leaves Good Bad (Cursor.advance s) := by
  cases hstate : s.cursor.state with
  | exhausted | closed =>
    rw [advance_of_final (by rw [hstate]; rfl)]
    exact h
  | created =>
    rw [advance_of_waiting (.inl hstate)]
    exact (laws.fetchPage h).map _
  | fetchingNextPage =>
    rw [advance_of_waiting (.inr hstate)]
    exact (laws.fetchPage h).map _
  | hasBufferedRows =>
    by_cases hrows : 0 < s.cursor.remaining
    · rw [advance_of_rows hstate hrows]
      exact (laws.decodeRow h).map _
    · have hnone : s.cursor.remaining = 0 := by omega
      cases hpage : s.cursor.page with
      | nil =>
        rw [advance_of_empty hstate hnone hpage]
        exact laws.abort _ h
      | cons more rest =>
        rw [advance_of_rest hstate hnone hpage]
        split
        next => exact laws.cursor h rfl rfl
        next =>
          exact (laws.fetchPage (s := { s with cursor := { s.cursor with page := rest } })
            (laws.cursor h rfl rfl)).map _

theorem nextRow (turns : Nat) (h : Good s) : Leaves Good Bad (Cursor.nextRow turns s) := by
  induction turns generalizing s with
  | zero => trivial
  | succ turns ih =>
    refine (laws.advance h).bind fun turn t ht => ?_
    cases turn with
    | row row => exact ht
    | finished => exact ht
    | fetched => exact ih ht

variable (read : Row → Except DecodeError α)

theorem convert (row : Row) (h : Good s) : Leaves Good Bad (Cursor.convert read row s) := by
  cases hread : read row with
  | ok a =>
    simp only [Cursor.convert, hread]
    exact h
  | error cause =>
    simp only [Cursor.convert, hread]
    exact laws.abort cause h

theorem fetchAll (turns : Nat) (h : Good s) : Leaves Good Bad (Cursor.fetchAll read turns s) := by
  induction turns generalizing s with
  | zero => trivial
  | succ turns ih =>
    refine (laws.advance h).bind fun turn t ht => ?_
    cases turn with
    | row row =>
      refine (laws.convert read row ht).bind fun a t ht => ?_
      exact (ih ht).bind fun rows t ht => ht
    | finished => exact ht
    | fetched => exact ih ht

/-- The close behind the only row that is wanted never fails. -/
theorem fetchFirst?_failed (turns : Nat) (h : Good s)
    (hfailed : Cursor.fetchFirst? read turns s = .error (.failed e) after) : Bad e after := by
  refine (laws.nextRow turns h).bind_failed (fun row? t ht hrow => ?_) hfailed
  cases row? with
  | none => cases hrow
  | some row =>
    refine (laws.convert read row ht).bind_failed (fun a t' _ hclose => ?_) hrow
    rw [bind_apply] at hclose
    cases hresult : closeQuietly t' with
    | ok _ last =>
      rw [hresult] at hclose
      cases hclose
    | error stop last =>
      rw [hresult] at hclose
      cases hclose
      exact absurd hresult (closeQuietly_ne_failed t' e after)

theorem fetchFirst?_none (turns : Nat) (h : Good s)
    (hnone : Cursor.fetchFirst? read turns s = .ok none after) : Good after := by
  have hrow := laws.nextRow turns h
  unfold fetchFirst? at hnone
  rw [bind_apply] at hnone
  cases hnext : Cursor.nextRow turns s with
  | error stop t =>
    rw [hnext] at hnone
    cases hnone
  | ok row? t =>
    rw [hnext] at hnone hrow
    cases row? with
    | none =>
      cases hnone
      exact hrow
    | some row =>
      dsimp only at hnone
      rw [bind_apply] at hnone
      split at hnone
      next =>
        rw [bind_apply] at hnone
        split at hnone <;> cases hnone
      next => cases hnone

theorem fetchOne_failed (turns : Nat) (hnone : ∀ t, Good t → Bad { kind := .rowNotFound } t)
    (h : Good s) (hfailed : Cursor.fetchOne read turns s = .error (.failed e) after) :
    Bad e after := by
  unfold fetchOne at hfailed
  rw [bind_apply] at hfailed
  cases hfirst : Cursor.fetchFirst? read turns s with
  | error stop t =>
    rw [hfirst] at hfailed
    cases hfailed
    exact laws.fetchFirst?_failed read turns h hfirst
  | ok row? t =>
    rw [hfirst] at hfailed
    cases row? with
    | none =>
      cases hfailed
      exact hnone after (laws.fetchFirst?_none read turns h hfirst)
    | some row => cases hfailed

/-- A cursor comes about, or one that has been closed is dropped. -/
theorem takeOver (id : Int64) (pageOp : Operation) (columns : Except DecodeError Columns)
    (page : Bytes) {client : Client σ}
    (h : ∀ c : Cursor, c.id = id → c.pageOp = pageOp → Good ⟨c, client⟩) :
    (∃ cursor, Good ⟨cursor, client⟩ ∧
        Cursor.takeOver id pageOp columns page client = .ok cursor client) ∨
      ∃ stop t, (∀ e, stop = .failed e → Bad e t) ∧
        Cursor.takeOver id pageOp columns page client = .error stop (t.cursor.drop t.client) := by
  rcases takeOver_cases id pageOp columns page client with
    ⟨found, cursor, -, hload, hcall⟩ | ⟨α, start, cause, stop, t, hid, hop, habort, hcall⟩
  · obtain ⟨hid, hop⟩ := load_keeps hload
    exact .inl ⟨cursor, h cursor hid hop, hcall⟩
  · have hbad := laws.abort (α := α) cause (h start hid hop)
    rw [habort] at hbad
    refine .inr ⟨stop, t, ?_, hcall⟩
    rintro e rfl
    exact hbad

end Laws

end Cursor

namespace Query

variable [Peer σ]

/-- What is kept of a client from before a query is sent until its cursor is dropped. -/
structure Laws (Good : Client σ → Prop) (Bad : Error → Client σ → Prop) : Prop extends
    Cursor.Laws (fun s => Good s.client) (fun e s => Bad e s.client) where
  /-- A request is sent that has the next correlation id. -/
  send {client : Client σ} {request : Request} (h : Good client)
    (hid : request.id = client.connection.ids.next.1) :
    Leaves Good Bad (sendAndReceive request (tookId client))
  /-- A query cannot be written. -/
  unwritable {client : Client σ} (cause : EncodeError) (h : Good client) : Bad cause (tookId client)
  /-- The answer to a query does not begin with the id of a cursor. -/
  unreadable {client : Client σ} (cause : DecodeError) (h : Good client) : Bad cause client
  rowNotFound {client : Client σ} (h : Good client) : Bad { kind := .rowNotFound } client
  drop {client : Client σ} {e : Error} (c : Cursor) (h : Bad e client) : Bad e (c.drop client)

namespace Laws

variable {Good : Client σ → Prop} {Bad : Error → Client σ → Prop} {client after : Client σ}
  {e : Error} (laws : Laws Good Bad)

include laws

theorem takeFrom (q : Query) (response : Response) (h : Good client) :
    Leaves Good Bad (q.takeFrom response client) := by
  have htaken (cursorId : Int64) (columns : Except DecodeError Columns) (page : Bytes) :
      Leaves Good Bad (Cursor.takeOver cursorId q.pageOp columns page client) := by
    rcases laws.takeOver cursorId q.pageOp columns page (fun _ _ _ => h) with
      ⟨cursor, hcursor, hcall⟩ | ⟨stop, t, hstop, hcall⟩
    · rw [hcall]
      exact hcursor
    · rw [hcall]
      cases stop with
      | failed e => exact laws.drop t.cursor (hstop e rfl)
      | cancelled => trivial
  unfold Query.takeFrom
  cases Reader.word Int64 response.payload with
  | error cause rest => exact laws.unreadable cause h
  | ok cursorId rest =>
    dsimp only
    cases q.readColumns rest <;> exact htaken cursorId _ _

theorem openCursor (q : Query) (h : Good client) : Leaves Good Bad (q.openCursor client) := by
  cases hpayload : q.payload client.connection.config.pageSize with
  | error cause =>
    rw [openCursor_of_unwritable hpayload]
    exact laws.unwritable cause h
  | ok payload =>
    rw [openCursor_eq hpayload]
    exact (laws.send h rfl).bind fun response _ hopened => laws.takeFrom q response hopened

theorem consume {call : CursorCall σ α} {cursor : Cursor}
    (hcall : ∀ t, call ⟨cursor, client⟩ = .error (.failed e) t → Bad e t.client)
    (h : Cursor.consume call cursor client = .error (.failed e) after) : Bad e after := by
  unfold Cursor.consume at h
  cases hresult : call ⟨cursor, client⟩ with
  | ok a t =>
    rw [hresult] at h
    cases h
  | error stop t =>
    rw [hresult] at h
    cases h
    exact laws.drop t.cursor (hcall t hresult)

/-- **A query that opens a cursor and uses it up keeps what the cursor keeps.** -/
theorem fetch (q : Query) {call : CursorCall σ α}
    (hcall : ∀ s t, Good s.client → call s = .error (.failed e) t → Bad e t.client)
    (h : Good client)
    (hfailed : (do Cursor.consume call (← q.openCursor)) client = .error (.failed e) after) :
    Bad e after :=
  (laws.openCursor q h).bind_failed
    (fun cursor t ht => laws.consume (hcall ⟨cursor, t⟩ · ht)) hfailed

end Laws

end Query

end ThinClient
