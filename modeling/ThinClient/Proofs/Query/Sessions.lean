import ThinClient.Proofs.Query.Custody

/-!
# Sessions of queries

A connection is used by one cursor at a time, which is opened, used, and closed or dropped before
the next one.

* `Act` is something that is done to a connection or to the cursor on it, with queries of every
  kind, and rows read as anything.
* `Session.run` is any list of them, one after the other, and `Session.Kept` what each one keeps.
* `Session.run_custody`: **between two acts, the server holds what is deferred to close**, and it
  was never asked to release what it did not hold.
* `Session.secondUnreadable` is a server with which this can be tried.
-/

namespace ThinClient

/-! ## Acts -/

/-- How rows are fetched at once. -/
inductive Fetching where
  | all
  | first
  | one

/-- Fetches rows from a cursor. -/
def Fetching.perform {σ α : Type} [Peer σ] (read : Row → Except DecodeError α) (turns : Nat) :
    Fetching → CursorCall σ Unit
  | all => (fun _ => ()) <$> Cursor.fetchAll read turns
  | first => (fun _ => ()) <$> Cursor.fetchFirst? read turns
  | one => (fun _ => ()) <$> Cursor.fetchOne read turns

/-- Something that is done to a connection, or to the cursor on it. -/
inductive Act : Type 1 where
  | openCursor (query : Query)
  | closePending
  /-- Opens a cursor and fetches rows from it. -/
  | query (query : Query) (fetching : Fetching) (α : Type) (read : Row → Except DecodeError α)
    (turns : Nat)
  | nextRow (turns : Nat)
  | close
  /-- Fetches rows from the cursor, which is used up. -/
  | fetch (fetching : Fetching) (α : Type) (read : Row → Except DecodeError α) (turns : Nat)
  | drop

/-- A connection, with the cursor on it if there is one. -/
structure Session (σ : Type) where
  client : Client σ
  cursor : Option Cursor := none

namespace Session

variable {σ α : Type} [Peer σ]

/-- The session after a call of the cursor, however it ends. -/
def ofCall : EStateM.Result (Stop Error) (OpenCursor σ) α → Session σ
  | .ok _ after | .error _ after => ⟨after.client, some after.cursor⟩

/-- What an act does. Nothing happens if it needs a cursor and there is none, or if it needs the
connection and a cursor has it. -/
def step (s : Session σ) (act : Act) : Session σ :=
  match s.cursor, act with
  | none, .openCursor q =>
    match q.openCursor s.client with
    | .ok cursor client => ⟨client, some cursor⟩
    | .error _ client => ⟨client, none⟩
  | none, .closePending => ⟨s.client.after Connection.closePending, none⟩
  | none, .query q .all _ read turns => ⟨s.client.after (q.fetchAll read turns), none⟩
  | none, .query q .first _ read turns => ⟨s.client.after (q.fetchFirst? read turns), none⟩
  | none, .query q .one _ read turns => ⟨s.client.after (q.fetchOne read turns), none⟩
  | some cursor, .nextRow turns => ofCall (Cursor.nextRow turns ⟨cursor, s.client⟩)
  | some cursor, .close => ofCall (Cursor.close ⟨cursor, s.client⟩)
  | some cursor, .fetch fetching _ read turns =>
    ⟨s.client.after (Cursor.consume (fetching.perform read turns) cursor), none⟩
  | some cursor, .drop => ⟨cursor.drop s.client, none⟩
  | _, _ => s

/-- What acts do one after the other. -/
def run (s : Session σ) (acts : List Act) : Session σ :=
  acts.foldl step s

/-! ## Custody -/

variable {server : Server} {s : Session (Line server)}

/-- The server holds what the cursor takes it to hold, or what is deferred to close if there is no
cursor. -/
def Kept (s : Session (Line server)) : Prop :=
  match s.cursor with
  | none => Settled s.client
  | some cursor => Cursor.InStep ⟨cursor, s.client⟩

theorem Kept.of_lands {result : EStateM.Result (Stop Error) (OpenCursor (Line server)) α}
    (h : Cursor.Lands result) : (ofCall result).Kept := by
  cases result <;> exact h

theorem perform_lands (fetching : Fetching) (read : Row → Except DecodeError α) (turns : Nat)
    {s : OpenCursor (Line server)} (h : Cursor.InStep s) :
    Cursor.Lands (fetching.perform read turns s) := by
  cases fetching with
  | all => exact (Cursor.fetchAll_line read turns h).map _
  | first => exact (Cursor.fetchFirst?_line read turns h).map _
  | one => exact (Cursor.fetchOne_line read turns h).map _

/-- A cursor that is opened and used up at once leaves nothing open that is not deferred to
close. -/
theorem after_fetch (q : Query) {client : Client (Line server)} (h : Settled client)
    {call : CursorCall (Line server) α} (hcall : ∀ s, Cursor.InStep s → Cursor.Lands (call s)) :
    Settled (client.after (do Cursor.consume call (← q.openCursor))) := by
  rcases q.openCursor_line h with ⟨cursor, after, hopen, hstep⟩ | ⟨stop, after, hopen, hsettled⟩
  · have hsame : client.after (do Cursor.consume call (← q.openCursor)) =
        after.after (Cursor.consume call cursor) := by
      unfold Client.after
      rw [bind_apply, hopen]
    rw [hsame]
    exact Cursor.consume_line (hcall _ hstep)
  · unfold Client.after
    rw [bind_apply, hopen]
    exact hsettled

/-- What is done to a connection that no cursor has. -/
theorem Kept.step_connection {client : Client (Line server)} (h : Settled client) (act : Act) :
    (step ⟨client, none⟩ act).Kept := by
  cases act with
  | openCursor q =>
    unfold Session.step
    rcases q.openCursor_line h with ⟨cursor, after, hopen, hstep⟩ | ⟨stop, after, hopen, hsettled⟩
    · simp only [hopen]
      exact hstep
    · simp only [hopen]
      exact hsettled
  | closePending =>
    obtain ⟨after, hcall, hsteady⟩ := h.closePending
    have hafter : client.after Connection.closePending = after := by
      rw [Client.after, hcall]
    change Settled (client.after Connection.closePending)
    rw [hafter]
    exact hsteady.settled
  | query q fetching α read turns =>
    cases fetching with
    | all => exact after_fetch q h fun _ => Cursor.fetchAll_line read turns
    | first => exact after_fetch q h fun _ => Cursor.fetchFirst?_line read turns
    | one => exact after_fetch q h fun _ => Cursor.fetchOne_line read turns
  | nextRow | close | fetch | drop => exact h

/-- What is done to a cursor. -/
theorem Kept.step_cursor {cursor : Cursor} {client : Client (Line server)}
    (h : Cursor.InStep ⟨cursor, client⟩) (act : Act) : (step ⟨client, some cursor⟩ act).Kept := by
  cases act with
  | nextRow turns => exact .of_lands (Cursor.nextRow_line turns h)
  | close => exact .of_lands (Cursor.close_lands h)
  | fetch fetching α read turns =>
    exact Cursor.consume_line (perform_lands fetching read turns h)
  | drop => exact h.drop
  | openCursor | closePending | query => exact h

theorem Kept.step (h : s.Kept) (act : Act) : (s.step act).Kept := by
  obtain ⟨client, cursor⟩ := s
  cases cursor with
  | none => exact .step_connection h act
  | some cursor => exact .step_cursor h act

theorem Kept.run (h : s.Kept) (acts : List Act) : (s.run acts).Kept := by
  induction acts generalizing s with
  | nil => exact h
  | cons act acts ih => exact ih (h.step act)

/-- The ledger of the server that a session talks to. -/
def ledger (s : Session (Line server)) : Ledger :=
  Connection.ledger s.client

/-- Whatever has happened, nothing was asked to be released in vain. -/
theorem Kept.sound (h : s.Kept) : s.ledger.Sound := by
  obtain ⟨client, cursor⟩ := s
  cases cursor with
  | none => exact Settled.sound h
  | some cursor => exact (Cursor.InStep.fair h).sound

/-- A session that begins: nothing was asked yet. -/
def start (server : Server) (pace : Nat → Nat) (config : Config) (ids : IdSource)
    (journal : Journal) : Session (Line server) where
  client := ⟨{ stream := { peer := { pace } }, config, ids }, journal⟩

theorem start_kept (pace : Nat → Nat) (config : Config) (ids : IdSource) (journal : Journal) :
    (start server pace config ids journal).Kept where
  serving := ⟨rfl, rfl, rfl, rfl, rfl⟩
  sound := by constructor <;> simp [Connection.ledger, Connection.past, start, Ledger.ofPast,
    Ledger.ids]
  held_perm := .refl _

/-- **While no cursor is alive, a server holds what is deferred to close and nothing else, each
thing once. Nothing was asked to be released twice, and nothing that the server did not hold.** -/
theorem run_custody (server : Server) (pace : Nat → Nat) (config : Config) (ids : IdSource)
    (journal : Journal) (acts : List Act) :
    let s := (start server pace config ids journal).run acts
    (s.cursor = none →
      s.ledger.ids.Perm s.client.connection.pendingClose ∧
        s.client.connection.pendingClose.Nodup) ∧
      s.ledger.ids.Nodup ∧ s.ledger.closed.Nodup ∧ s.ledger.strays = [] := by
  intro s
  have hkept : s.Kept := (start_kept pace config ids journal).run acts
  have hsound := hkept.sound
  refine ⟨fun hcursor => ?_, hsound.ids_nodup, hsound.closed_nodup, hsound.strays_eq⟩
  have hperm : s.ledger.ids.Perm s.client.connection.pendingClose := by
    rw [Kept, hcursor] at hkept
    exact hkept.held_perm
  exact ⟨hperm, hperm.nodup_iff.mp hsound.ids_nodup⟩

/-! ## A server whose second pages cannot be read -/

/-- A null. -/
def nullValue : TaggedValue :=
  .ofEncode .null [TypeCode.null.toByte] rfl

/-- A value of a type that no client knows. -/
def strangeValue : TaggedValue :=
  .ofUnknown 200 [1, 2, 3] (by decide)

theorem one_le_greatestCount : 1 ≤ greatestCount := by decide

/-- A page of an entry, which is not the last one. -/
def entryPage (key value : TaggedValue) : Page where
  width := 2
  rows := [[key, value]]
  length_of_mem row hmem := by rw [List.mem_singleton.mp hmem]; rfl
  length_le := one_le_greatestCount
  more := 1

/-- A refusal without an explanation. -/
def refusal : Answer :=
  .refused 1 ⟨none, [TypeCode.null.toByte], rfl⟩

theorem refusal_isRefusal : refusal.IsRefusal :=
  ⟨1, _, by decide, rfl⟩

/-- A scan has pages of one entry, and only the first one can be read. -/
def secondUnreadableAnswer (past : List Round) (request : Request) : Answer :=
  let l := Ledger.ofPast past
  if request.op = .resourceClose then .done []
  else if request.op = .queryScan ∧ Int64.ofNat past.length ∉ l.given then
    .opened (Int64.ofNat past.length) [] (entryPage nullValue nullValue)
  else if request.op = .queryScanPage ∧ ∀ holding ∈ l.held, holding.width = 2 then
    .page (entryPage nullValue strangeValue)
  else refusal

/-- A server of scans alone. -/
def secondUnreadable : Server where
  answer := secondUnreadableAnswer
  answer_open past request h := by
    have hclose := Operation.ne_resourceClose_of_opening h
    unfold secondUnreadableAnswer
    simp only [hclose, if_false]
    split
    next hscan =>
      refine .inr ⟨_, _, _, rfl, hscan.2, ?_⟩
      rw [HasColumns, if_neg (by rw [hscan.1]; decide)]
      exact ⟨rfl, rfl⟩
    next =>
      split
      next hpage => exact absurd h (by rw [hpage.1]; decide)
      next => exact .inl refusal_isRefusal
  answer_page past request width h hheld := by
    have hclose := Operation.ne_resourceClose_of_paging h
    unfold secondUnreadableAnswer
    simp only [hclose, if_false]
    split
    next hscan => exact absurd h (by rw [hscan.1]; decide)
    next =>
      split
      next hpage => exact .inr ⟨_, rfl, (hpage.2 _ hheld).symm⟩
      next => exact .inl refusal_isRefusal
  answer_close past request h := by
    unfold secondUnreadableAnswer
    rw [if_pos h]
    exact .inr ⟨_, rfl⟩
  body_le past request := by
    have hid : (Word.encode request.id).length = 8 := Word.length_encode request.id
    have hstatus (status : Int32) : (Word.encode status).length = 4 := Word.length_encode status
    have hgiven (id : Int64) : (Word.encode id).length = 8 := Word.length_encode id
    rw [Answer.body, List.length_append, List.length_append, hid, hstatus, greatestCount]
    unfold secondUnreadableAnswer
    dsimp only
    split
    · decide
    split
    · rw [Answer.payload, List.length_append, hgiven]
      decide
    split
    · decide
    · decide

/-- A scan whose second entry cannot be read, another one whose first entry is not taken, and a
third one that is dropped. -/
def threeScans : List Act :=
  let scan : Query := .scan { cache := "c" }
  [.openCursor scan, .nextRow 5, .nextRow 5, .drop, .query scan .one Unit (fun _ => .error .null) 5,
    .openCursor scan, .nextRow 5, .drop]

/-- The session in which this server is asked for these scans. -/
def threeScansRun : Session (Line secondUnreadable) :=
  (start secondUnreadable (fun _ => 3) .default .default {}).run threeScans

/-- The first two cursors are released after their errors, and the third one is still held. -/
theorem run_custody_threeScans :
    threeScansRun.cursor = none ∧ threeScansRun.client.connection.pendingClose = [5] ∧
      threeScansRun.ledger.ids.Perm [5] ∧ threeScansRun.ledger.closed = [0, 3] ∧
      threeScansRun.ledger.closed.Nodup ∧ threeScansRun.ledger.strays = [] := by
  have hrun : threeScansRun.cursor.isNone ∧
      threeScansRun.client.connection.pendingClose = [5] ∧
      threeScansRun.ledger.closed = [0, 3] := by
    cbv
    exact ⟨rfl, rfl⟩
  obtain ⟨hcursor, hpending, hclosed⟩ := hrun
  have hnone : threeScansRun.cursor = none := Option.isNone_iff_eq_none.mp hcursor
  obtain ⟨hperm, -, hnodup, hstrays⟩ :=
    run_custody secondUnreadable (fun _ => 3) .default .default {} threeScans
  exact ⟨hnone, hpending, hpending ▸ (hperm hnone).1, hclosed, hnodup, hstrays⟩

end Session

end ThinClient
