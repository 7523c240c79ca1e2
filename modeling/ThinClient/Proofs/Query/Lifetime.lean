import ThinClient.Proofs.Query.Laws
import ThinClient.Proofs.Query.Truncation

/-!
# The life of a cursor

A cursor asks for pages, is closed by its caller or by its own failure, and is dropped in the end.
Its calls are over at some point, and what comes then must do nothing, whatever the server says.

* `Order` is what a cursor lets its client do, and `Carried` that a client has carried out orders
  and nothing else.
* `Unclosed` is a cursor that has only asked for pages, `Retired` one that has nothing more to do.
  `abort_retired` is what follows a failure and `unclosed_laws` that all calls of a cursor lead from
  the one to the other, also those of one that does not come about (`takeOver_retired`).
  `isFinal_of_finished` is the end of the rows.
* `Used` are the calls of a cursor, one after the other, none of which is given up.
  `Used.closes_once`: **once a call has failed, has seen the end or was a close, the cursor stays as
  it is, and until it is dropped it orders pages and at most one close**, the last of its orders.
-/

namespace ThinClient

open Connection

variable {σ : Type} [Peer σ]

/-! ## Orders -/

/-- What a cursor lets its client do. -/
inductive Order where
  /-- A request with the next correlation id. -/
  | ask (op : Operation) (payload : Bytes)
  | close (resource : Int64)
  | defer (resource : Int64)

/-- What the client does. -/
def Order.perform : Order → Call σ Unit
  | ask op payload => do
    let request ← beginRequest op
    discard <| sendAndReceive (request.append payload)
  | close resource => closeResource resource
  | defer resource => deferClose resource

/-- The client has carried out the orders, one after the other, and its connection nothing else. -/
inductive Carried (before : Client σ) : List Order → Client σ → Prop
  | none {after : Client σ} (h : after.connection = before.connection) : Carried before [] after
  | snoc {orders : List Order} {middle after : Client σ} (order : Order)
    (hmiddle : Carried before orders middle)
    (h : after.connection = (middle.after order.perform).connection) :
    Carried before (orders ++ [order]) after

theorem perform_ask (op : Operation) (payload : Bytes) (client : Client σ) :
    (Order.ask op payload).perform client =
      ((fun _ => ()) <$> sendAndReceive ⟨op, client.connection.ids.next.1, payload⟩)
        (tookId client) := rfl

theorem after_ask (op : Operation) (payload : Bytes) (client : Client σ) :
    client.after (Order.ask op payload).perform =
      (tookId client).after (sendAndReceive ⟨op, client.connection.ids.next.1, payload⟩) := by
  rw [Client.after_congr (perform_ask op payload client), Client.after_map]

/-- What is reported in between makes no difference. -/
theorem Carried.congr {before after last : Client σ} {orders : List Order}
    (h : Carried before orders after) (hlast : last.connection = after.connection) :
    Carried before orders last := by
  cases h with
  | none h => exact .none (hlast.trans h)
  | snoc order hmiddle h => exact .snoc order hmiddle (hlast.trans h)

namespace Cursor

/-- The order for a page. -/
def pageOrder (c : Cursor) : Order :=
  .ask c.pageOp (Word.encode c.id)

/-! ## Before and after the end -/

/-- The cursor has ordered pages since the start, and nothing else. -/
structure Unclosed (start s : OpenCursor σ) : Prop where
  id_eq : s.cursor.id = start.cursor.id
  pageOp_eq : s.cursor.pageOp = start.cursor.pageOp
  carried : ∃ n, Carried start.client (List.replicate n start.cursor.pageOrder) s.client

/-- The cursor has nothing more to do, and has ordered its close at most once. -/
structure Retired (start s : OpenCursor σ) : Prop where
  isFinal : s.cursor.state.isFinal = true
  carried : ∃ n closes, (closes = [] ∨ closes = [.close start.cursor.id]) ∧
    Carried start.client (List.replicate n start.cursor.pageOrder ++ closes) s.client

variable {start s after : OpenCursor σ} {e : Error}

theorem Unclosed.refl (start : OpenCursor σ) : Unclosed start start :=
  ⟨rfl, rfl, 0, .none rfl⟩

theorem Unclosed.retired (h : Unclosed start s) (hafter : after.client = s.client)
    (hfinal : after.cursor.state.isFinal = true) : Retired start after := by
  obtain ⟨n, hcarried⟩ := h.carried
  refine ⟨hfinal, n, [], .inl rfl, ?_⟩
  rw [List.append_nil, hafter]
  exact hcarried

/-- A cursor that is marked as closed has ordered its close, if that is what its client did. -/
theorem Unclosed.closed (h : Unclosed start s)
    (hafter : after.client.connection =
      (s.client.after (closeResource s.cursor.id)).connection)
    (hfinal : after.cursor.state.isFinal = true) : Retired start after := by
  obtain ⟨n, hcarried⟩ := h.carried
  rw [h.id_eq] at hafter
  exact ⟨hfinal, n, [.close start.cursor.id], .inr rfl, .snoc _ hcarried hafter⟩

theorem close_retired (h : Unclosed start s) :
    Leaves (Retired start) (fun _ => Retired start) (close s) := by
  cases hfinal : s.cursor.state.isFinal with
  | true =>
    rw [close_of_final hfinal]
    exact h.retired rfl hfinal
  | false =>
    cases hreleased : s.cursor.isReleased with
    | true =>
      rw [close_of_released hfinal hreleased]
      exact h.retired rfl rfl
    | false =>
      rw [close_of_open hfinal hreleased, onClient]
      dsimp only
      cases hclose : closeResource s.cursor.id s.client with
      | ok _ client => exact h.closed (by rw [Client.after_of_ok hclose]) rfl
      | error stop client =>
        cases stop with
        | failed e => exact h.closed (by rw [Client.after_of_error hclose]) rfl
        | cancelled => trivial

/-- After a failure a cursor is retired, also if its close fails. -/
theorem abort_retired {α : Type} (e : Error) (h : Unclosed start s) :
    Leaves (Unclosed start) (fun _ => Retired start) (abort (α := α) e s) := by
  cases he : e.isConnectionError with
  | true =>
    rw [abort_of_connectionError he]
    exact h.retired rfl rfl
  | false =>
    have hretired := close_retired h
    cases hclose : close s with
    | ok _ after =>
      rw [hclose] at hretired
      rw [abort_of_closed he (closeQuietly_of_ok hclose)]
      exact hretired
    | error stop after =>
      rw [hclose] at hretired
      cases stop with
      | cancelled =>
        rw [abort_of_cancelled he (closeQuietly_of_cancelled hclose)]
        trivial
      | failed cause =>
        obtain ⟨hfinal, n, closes, hcloses, hcarried⟩ := hretired
        rw [abort_of_closed he (closeQuietly_of_failed hclose)]
        exact ⟨hfinal, n, closes, hcloses, hcarried.congr rfl⟩

/-- A page that is asked for is one more, or the cursor is retired. -/
theorem orAbort_retired (h : Unclosed start s) :
    Leaves (Unclosed start) (fun _ => Retired start)
      (orAbort (sendAndReceive (pageRequest s)) ⟨fetching s.cursor, tookId s.client⟩) := by
  have hasked (client : Client σ)
      (hclient : (tookId s.client).after (sendAndReceive (pageRequest s)) = client) :
      Unclosed start ⟨fetching s.cursor, client⟩ := by
    obtain ⟨n, hcarried⟩ := h.carried
    refine ⟨h.id_eq, h.pageOp_eq, n + 1, ?_⟩
    rw [List.replicate_succ']
    refine .snoc _ hcarried ?_
    rw [pageOrder, after_ask, ← h.id_eq, ← h.pageOp_eq, ← hclient]
    rfl
  unfold orAbort onClient
  cases hcall : sendAndReceive (pageRequest s) (tookId s.client) with
  | ok response client => exact hasked client (Client.after_of_ok hcall)
  | error stop client =>
    cases stop with
    | cancelled => trivial
    | failed e => exact abort_retired e (hasked client (Client.after_of_error hcall))

/-- **Whatever a cursor is asked to do, it asks for pages until it is retired.** -/
theorem unclosed_laws (start : OpenCursor σ) : Laws (Unclosed start) fun _ => Retired start where
  cursor h hid hop := ⟨hid.trans h.id_eq, hop.trans h.pageOp_eq, h.carried⟩
  ask := orAbort_retired
  abort cause h := abort_retired cause h

/-- A cursor that does not come about has been retired before it was dropped. -/
theorem takeOver_retired (id : Int64) (pageOp : Operation) (columns : Except DecodeError Columns)
    (page : Bytes) (client : Client σ) :
    (∃ cursor, takeOver id pageOp columns page client = .ok cursor client) ∨
      ∃ stop t, takeOver id pageOp columns page client = .error stop (t.cursor.drop t.client) ∧
        ∀ e, stop = .failed e → Retired ⟨{ id, pageOp, columns := ⟨[], 0⟩ }, client⟩ t := by
  have hstart : ∀ c : Cursor, c.id = id → c.pageOp = pageOp →
      Unclosed ⟨{ id, pageOp, columns := ⟨[], 0⟩ }, client⟩ ⟨c, client⟩ :=
    fun c hid hop => ⟨hid, hop, 0, .none rfl⟩
  rcases (unclosed_laws _).takeOver id pageOp columns page hstart with
    ⟨cursor, -, hcall⟩ | ⟨stop, t, hstop, hcall⟩
  · exact .inl ⟨cursor, hcall⟩
  · exact .inr ⟨stop, t, hcall, hstop⟩

/-! ## The end of the rows -/

theorem fetched_ne_finished (s after : OpenCursor σ) :
    ((fun _ => Turn.fetched) <$> fetchPage) s ≠ .ok .finished after := by
  rw [map_apply]
  split <;> simp

/-- A cursor that sees the end of its rows is retired. -/
theorem isFinal_of_finished (h : advance s = .ok .finished after) :
    after.cursor.state.isFinal = true := by
  cases hstate : s.cursor.state with
  | exhausted | closed =>
    rw [advance_of_final (by rw [hstate]; rfl)] at h
    cases h
    rw [hstate]
    rfl
  | created =>
    rw [advance_of_waiting (.inl hstate)] at h
    exact absurd h (fetched_ne_finished _ _)
  | fetchingNextPage =>
    rw [advance_of_waiting (.inr hstate)] at h
    exact absurd h (fetched_ne_finished _ _)
  | hasBufferedRows =>
    by_cases hrows : 0 < s.cursor.remaining
    · rw [advance_of_rows hstate hrows, map_apply] at h
      split at h <;> cases h
    · have hnone : s.cursor.remaining = 0 := by omega
      cases hpage : s.cursor.page with
      | nil =>
        obtain ⟨stop, t, habort, -⟩ := abort_stops Turn (DecodeError.truncated 1 0) s
        rw [advance_of_empty hstate hnone hpage, habort] at h
        cases h
      | cons more rest =>
        rw [advance_of_rest hstate hnone hpage] at h
        split at h
        next =>
          cases h
          rfl
        next => exact absurd h (fetched_ne_finished _ _)

theorem isFinal_of_none {turns : Nat} (h : nextRow turns s = .ok none after) :
    after.cursor.state.isFinal = true := by
  induction turns generalizing s with
  | zero => cases h
  | succ turns ih =>
    rw [nextRow, bind_apply] at h
    cases hturn : advance s with
    | error stop t =>
      rw [hturn] at h
      cases h
    | ok turn t =>
      rw [hturn] at h
      cases turn with
      | row row => cases h
      | finished =>
        cases h
        exact isFinal_of_finished hturn
      | fetched => exact ih h

theorem nextRow_of_final (h : s.cursor.state.isFinal = true) (turns : Nat) :
    nextRow (turns + 1) s = .ok none s :=
  nextRow_of_finished (advance_of_final h) turns

/-! ## A whole life -/

/-- What a caller asks of a cursor. -/
inductive Use where
  | nextRow (turns : Nat)
  | close

/-- What the cursor does; a close gives no row. -/
def Use.perform : Use → CursorCall σ (Option Row)
  | nextRow turns => Cursor.nextRow turns
  | close => (fun _ => none) <$> Cursor.close

/-- Calls of a cursor one after the other, each of which has given a value or failed. -/
inductive Used (start : OpenCursor σ) :
    List (Use × Except Error (Option Row)) → OpenCursor σ → Prop
  | unused : Used start [] start
  | gave {done : List (Use × Except Error (Option Row))} {s after : OpenCursor σ} {use : Use}
    {row? : Option Row} (hused : Used start done s) (h : use.perform s = .ok row? after) :
    Used start (done ++ [(use, .ok row?)]) after
  | failed {done : List (Use × Except Error (Option Row))} {s after : OpenCursor σ} {use : Use}
    {e : Error} (hused : Used start done s) (h : use.perform s = .error (.failed e) after) :
    Used start (done ++ [(use, .error e)]) after

/-- After such a call there is nothing more to do. -/
def IsLast (call : Use × Except Error (Option Row)) : Prop :=
  call.1 = .close ∨ call.2 = .ok none ∨ ∃ e, call.2 = .error e

namespace Use

variable {use : Use} {row? : Option Row}

/-- A cursor with nothing more to do does nothing more. -/
theorem perform_of_final (use : Use) (h : s.cursor.state.isFinal = true) :
    use.perform s = .ok none s ∨ use.perform s = .error .cancelled s := by
  cases use with
  | nextRow turns =>
    cases turns with
    | zero => exact .inr rfl
    | succ turns => exact .inl (nextRow_of_final h turns)
  | close =>
    left
    rw [perform, map_apply, close_of_final h]

theorem retired_of_ok (h : Unclosed start s) (hcall : use.perform s = .ok row? after) :
    Retired start after ∨ Unclosed start after ∧ ¬ IsLast (use, .ok row?) := by
  cases use with
  | nextRow turns =>
    have hafter := (unclosed_laws start).nextRow turns h
    rw [perform] at hcall
    rw [hcall] at hafter
    cases row? with
    | none => exact .inl (hafter.retired rfl (isFinal_of_none hcall))
    | some row => exact .inr ⟨hafter, by simp [IsLast]⟩
  | close =>
    have hafter := close_retired h
    rw [perform, map_apply] at hcall
    split at hcall
    next hclose =>
      cases hcall
      rw [hclose] at hafter
      exact .inl hafter
    next => cases hcall

theorem retired_of_failed (h : Unclosed start s)
    (hcall : use.perform s = .error (.failed e) after) : Retired start after := by
  cases use with
  | nextRow turns =>
    have hafter := (unclosed_laws start).nextRow turns h
    rw [perform] at hcall
    rwa [hcall] at hafter
  | close =>
    have hafter := close_retired h
    rw [perform, map_apply] at hcall
    split at hcall
    next => cases hcall
    next hclose =>
      cases hcall
      rwa [hclose] at hafter

end Use

variable {done : List (Use × Except Error (Option Row))}

/-- A cursor is retired, or has only ordered pages, and none of its calls was the last one. -/
theorem Used.retired (h : Used start done s) :
    Retired start s ∨ Unclosed start s ∧ ∀ call ∈ done, ¬ IsLast call := by
  induction h with
  | unused => exact .inr ⟨.refl start, by simp⟩
  | @gave done s after use row? _ hcall ih =>
    rcases ih with hretired | ⟨hunclosed, hdone⟩
    · left
      rcases use.perform_of_final hretired.isFinal with hstill | hstill
      · rw [hstill] at hcall
        cases hcall
        exact hretired
      · rw [hstill] at hcall
        cases hcall
    · rcases Use.retired_of_ok hunclosed hcall with hretired | ⟨hafter, hlast⟩
      · exact .inl hretired
      · exact .inr ⟨hafter,
          List.forall_mem_append.mpr ⟨hdone, List.forall_mem_singleton.mpr hlast⟩⟩
  | @failed done s after use e _ hcall ih =>
    left
    rcases ih with hretired | ⟨hunclosed, -⟩
    · rcases use.perform_of_final hretired.isFinal with hstill | hstill
      · rw [hstill] at hcall
        cases hcall
      · rw [hstill] at hcall
        cases hcall
    · exact Use.retired_of_failed hunclosed hcall

/-- A cursor that is not retired when it is dropped has its close deferred, unless the server has
released it. -/
theorem Unclosed.drop (h : Unclosed start s) :
    ∃ n closes, (closes = [] ∨ closes = [.defer start.cursor.id]) ∧
      Carried start.client (List.replicate n start.cursor.pageOrder ++ closes)
        (s.cursor.drop s.client) := by
  obtain ⟨n, hcarried⟩ := h.carried
  unfold Cursor.drop
  split
  next =>
    refine ⟨n, [], .inl rfl, ?_⟩
    rwa [List.append_nil]
  next =>
    refine ⟨n, [.defer start.cursor.id], .inr rfl, .snoc _ hcarried ?_⟩
    rw [← h.id_eq]
    rfl

/-- **Once a call of a cursor has failed, has seen the end or was a close, the cursor is exhausted
or closed and stays as it is**: further calls and the drop change nothing, so nothing is sent and
nothing is deferred. **From the start to the drop the cursor orders pages and then at most one
close**, now or deferred, whatever the other end does. -/
theorem Used.closes_once (h : Used start done s) :
    ((∃ call ∈ done, IsLast call) →
        (s.cursor.state = .exhausted ∨ s.cursor.state = .closed) ∧
        (∀ turns, nextRow (turns + 1) s = .ok none s) ∧ close s = .ok () s ∧
        s.cursor.drop s.client = s.client) ∧
      ∃ n closes,
        (closes = [] ∨ closes = [.close start.cursor.id] ∨ closes = [.defer start.cursor.id]) ∧
        Carried start.client (List.replicate n start.cursor.pageOrder ++ closes)
          (s.cursor.drop s.client) := by
  constructor
  · rintro ⟨call, hcall, hlast⟩
    have hfinal : s.cursor.state.isFinal = true := by
      rcases h.retired with hretired | ⟨-, hdone⟩
      · exact hretired.isFinal
      · exact absurd hlast (hdone call hcall)
    refine ⟨?_, nextRow_of_final hfinal, close_of_final hfinal, drop_of_final hfinal⟩
    cases hstate : s.cursor.state <;> simp [hstate, CursorState.isFinal] at hfinal ⊢
  · rcases h.retired with hretired | ⟨hunclosed, -⟩
    · obtain ⟨n, closes, hcloses, hcarried⟩ := hretired.carried
      rw [drop_of_final hretired.isFinal]
      exact ⟨n, closes, hcloses.imp_right .inl, hcarried⟩
    · obtain ⟨n, closes, hcloses, hcarried⟩ := hunclosed.drop
      exact ⟨n, closes, hcloses.imp_right .inr, hcarried⟩

/-- A row of the page cannot be read, and the server has more rows. -/
def unreadable : OpenCursor Rehearsal.ScriptedPeer :=
  ⟨{ narrow with page := [42, 1], remaining := 1, state := .hasBufferedRows }, obliging⟩

/-- The failure closes the cursor, and a close that follows does nothing. -/
theorem closes_once_unreadable :
    ∃ e s, Used unreadable [(.nextRow 1, .error e), (.close, .ok none)] s ∧
      s.cursor.state = .closed ∧ s.cursor.drop s.client = s.client := by
  have hrow : Use.perform (.nextRow 1) unreadable =
      .error (.failed (DecodeError.unknownType 42)) (unreadable.after (nextRow 1)) := by cbv
  have hstate : (unreadable.after (nextRow 1)).cursor.state = .closed := by cbv
  have hclose : Use.perform .close (unreadable.after (nextRow 1)) =
      .ok none (unreadable.after (nextRow 1)) := by cbv
  have hused := Used.gave (.failed .unused hrow) hclose
  obtain ⟨-, -, -, hdrop⟩ := hused.closes_once.1 ⟨_, List.mem_cons_self, .inr (.inr ⟨_, rfl⟩)⟩
  exact ⟨_, _, hused, hstate, hdrop⟩

end Cursor

end ThinClient
