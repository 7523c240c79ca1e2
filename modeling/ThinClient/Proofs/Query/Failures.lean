import ThinClient.Proofs.Connection.Outcome
import ThinClient.Proofs.Query.Laws

/-!
# What the failure of a query says about the connection

A round trip breaks the connection with every error that is fatal (`Error.isFatal`), so there the
error says whether the connection can still be used. The calls of a cursor read pages and rows on
their own, and close the cursor after a failure without telling how that went, and neither of the
two is reconciled with the error that they return.

* `Client.losses` are the reports of closes that have broken the connection.
* `Overt` is what holds of calls that exchange frames: their errors name a request, and tell by
  themselves whether the connection is broken. `request_of_sendAndReceive` says which request.
* `Told` is what holds of the result of a call: `closeQuietly_ok` and `abort_told` for what follows
  a failure, `orAbort_told` for a page that is asked for.
* `Fails` are the ways in which a query can fail, and `Fails.leaves` says that what a query keeps,
  one that fails keeps. `Fails.connection_isBroken_iff`: **the connection is broken afterwards if
  and only if it was before, or the error is fatal and names a request, or a close has broken it on
  the side**. So a fatal error of a page or a row does not mean that it is.
-/

namespace ThinClient

variable {σ τ α β : Type}

/-- Whether a report says that the close of a cursor has broken the connection. -/
def LogEntry.isLoss : LogEntry → Bool
  | .cursorCloseFailed _ error => error.isFatal
  | _ => false

namespace Client

/-- The reports of closes that have broken the connection. -/
def losses (client : Client σ) : List LogEntry :=
  client.journal.entries.filter LogEntry.isLoss

/-- The connection is as usable as before, and no close has broken it on the side. -/
structure Same (before after : Client σ) : Prop where
  isBroken_eq : after.connection.isBroken = before.connection.isBroken
  losses_eq : after.losses = before.losses

/-- What an error tells of the connection, together with what has been reported. -/
structure Tells (before : Client σ) (e : Error) (after : Client σ) : Prop where
  isBroken_iff : after.connection.isBroken = true ↔
    before.connection.isBroken = true ∨ e.isFatal = true ∧ e.request.isSome = true ∨
      after.losses ≠ before.losses
  request_isSome : e.isConnectionError = true → e.request.isSome = true

variable {before middle after : Client σ} {e : Error}

theorem Same.refl (client : Client σ) : Same client client :=
  ⟨rfl, rfl⟩

theorem Same.trans (h : Same before middle) (h' : Same middle after) : Same before after :=
  ⟨h'.isBroken_eq.trans h.isBroken_eq, h'.losses_eq.trans h.losses_eq⟩

theorem Same.tookId (client : Client σ) : Same client (Connection.tookId client) :=
  ⟨rfl, rfl⟩

theorem Tells.of_same (h : Same before middle) (h' : Tells middle e after) :
    Tells before e after := by
  refine ⟨?_, h'.request_isSome⟩
  rw [← h.isBroken_eq, ← h.losses_eq]
  exact h'.isBroken_iff

theorem Tells.trans_same (h : Tells before e middle) (h' : Same middle after) :
    Tells before e after := by
  refine ⟨?_, h.request_isSome⟩
  rw [h'.isBroken_eq, h'.losses_eq]
  exact h.isBroken_iff

/-- An error of the client's own making tells nothing. -/
theorem Same.tells (h : Same before after) (hrequest : e.request = none)
    (he : e.isConnectionError = false) : Tells before e after where
  isBroken_iff := by simp [h.isBroken_eq, h.losses_eq, hrequest]
  request_isSome hconnection := by simp [he] at hconnection

end Client

/-! ## Exchanges of frames -/

/-- An answer that is a failure does not say to what; the round trip does. -/
theorem Response.request_of_ofFrame {request : RequestRef} {frame : Bytes} {e : Error}
    (h : ofFrame request frame = .error e) : e.request = none := by
  unfold ofFrame at h
  dsimp only at h
  split at h
  next =>
    cases h
    rfl
  next =>
    split at h
    next =>
      cases h
      rfl
    next =>
      split at h
      next => cases h
      next =>
        split at h <;> cases h <;> rfl

namespace Connection

/-- What holds of a call that exchanges frames. -/
structure Overt (call : Call σ α) (client : Client σ) : Prop where
  candid : Candid (call client)
  isBroken_after : client.connection.isBroken = true →
    (client.after call).connection.isBroken = true
  losses_after : (client.after call).losses = client.losses
  request_isSome : ∀ e after, call client = .error (.failed e) after → e.request.isSome = true

/-- A call that gives a value has found the connection ready and left it so. -/
theorem Overt.same_of_ok {call : Call σ α} {client after : Client σ} {a : α}
    (h : Overt call client) (hcall : call client = .ok a after) : client.Same after := by
  have hready : after.connection.phase = .ready := by
    have hcandid := h.candid
    rwa [hcall] at hcandid
  have hbroken := h.isBroken_after
  rw [Client.after_of_ok hcall] at hbroken
  have hafter : after.connection.isBroken = false := by simp [isBroken, hready]
  refine ⟨?_, Client.after_of_ok hcall ▸ h.losses_after⟩
  rw [hafter] at hbroken ⊢
  exact (Bool.eq_false_iff.mpr fun htrue => Bool.false_ne_true (hbroken htrue)).symm

/-- After a call that fails, the connection is broken exactly if the error is fatal. -/
theorem Overt.failed {call : Call σ α} {client after : Client σ} {e : Error}
    (h : Overt call client) (hcall : call client = .error (.failed e) after) :
    (after.connection.isBroken = true ↔ e.isFatal = true) ∧ e.request.isSome = true ∧
      after.losses = client.losses ∧
      (client.connection.isBroken = true → after.connection.isBroken = true) := by
  obtain ⟨hcandid, hbroken, hlosses, hrequest⟩ := h
  rw [hcall] at hcandid
  rw [Client.after_of_error hcall] at hbroken hlosses
  exact ⟨hcandid, hrequest e after hcall, hlosses, hbroken⟩

variable [Peer σ] {client after : Client σ} {e : Error}

/-- The error of a round trip names its request. -/
theorem request_of_roundTrip {request : Request}
    (h : roundTrip request client = .error (.failed e) after) :
    e.request = some request.ref := by
  rw [roundTrip_eq] at h
  cases hpassage : client.connection.passage request with
  | refused | unwritable cause =>
    rw [hpassage] at h
    cases h
    rfl
  | unanswered stop stream =>
    rw [hpassage] at h
    cases stop <;> cases h
    rfl
  | answered frame stream =>
    rw [hpassage] at h
    dsimp only at h
    cases hresponse : Response.ofFrame request.ref frame with
    | ok response =>
      rw [hresponse] at h
      cases h
    | error cause =>
      rw [hresponse] at h
      cases h
      simp [Error.withRequest, Response.request_of_ofFrame hresponse]

theorem losses_after_roundTrip (request : Request) (client : Client σ) :
    (client.after (roundTrip request)).losses = client.losses := by
  obtain ⟨stream, phase, hafter⟩ := after_roundTrip request client
  rw [hafter]
  rfl

theorem request_of_closeResource {resource : Int64}
    (h : closeResource resource client = .error (.failed e) after) :
    e.request = some (closeRequest client resource).ref := by
  rw [closeResource_eq, map_apply] at h
  split at h
  next => cases h
  next stop after' hround =>
    cases h
    exact request_of_roundTrip hround

theorem losses_after_closeResource (resource : Int64) (client : Client σ) :
    (client.after (closeResource resource)).losses = client.losses := by
  rw [after_closeResource]
  exact losses_after_roundTrip _ _

theorem closeResource_overt (resource : Int64) (client : Client σ) :
    Overt (closeResource resource) client where
  candid := closeResource_candid resource client
  isBroken_after h := by
    have hafter := ((Exchange.close resource).after_of_isBroken h).1
    rwa [Exchange.perform, Client.after_map] at hafter
  losses_after := losses_after_closeResource resource client
  request_isSome e after h := by simp [request_of_closeResource h]

theorem losses_after_closeEach (pending : List Int64) (client : Client σ) :
    (client.after (closeEach pending)).losses = client.losses := by
  induction pending generalizing client with
  | nil => rfl
  | cons resource rest ih =>
    have hlosses := losses_after_closeResource resource client
    cases hclose : closeResource resource client with
    | ok _ middle =>
      rw [Client.after_of_ok hclose] at hlosses
      rw [Client.after_congr (closeEach_of_ok hclose), ih, hlosses]
    | error stop middle =>
      rw [Client.after_of_error hclose] at hlosses
      cases stop with
      | cancelled => rw [Client.after_of_error (closeEach_of_cancelled hclose), hlosses]
      | failed cause =>
        have heq : closeEach (resource :: rest) client = _ := closeEach_of_failed hclose
        split at heq
        next => rw [Client.after_of_error heq, hlosses]
        next =>
          rw [Client.after_congr heq, ih, ← hlosses]
          simp [Client.losses, Journal.add, LogEntry.isLoss]

/-- The error that ends the deferred closes names the close that has failed. -/
theorem request_of_closeEach {pending : List Int64}
    (h : closeEach pending client = .error (.failed e) after) :
    ∃ trip ∈ closeTrips pending client, e.request = some trip.request.ref := by
  induction pending generalizing client with
  | nil => cases h
  | cons resource rest ih =>
    rw [closeTrips]
    cases hclose : closeResource resource client with
    | ok _ middle =>
      rw [closeEach_of_ok hclose] at h
      obtain ⟨trip, htrip, hnamed⟩ := ih h
      exact ⟨trip, List.mem_cons_of_mem _ htrip, hnamed⟩
    | error stop middle =>
      cases stop with
      | cancelled =>
        rw [closeEach_of_cancelled hclose] at h
        cases h
      | failed cause =>
        rw [closeEach_of_failed hclose] at h
        dsimp only
        split at h
        next =>
          cases h
          exact ⟨_, List.mem_cons_self, request_of_closeResource hclose⟩
        next hown =>
          obtain ⟨trip, htrip, hnamed⟩ := ih h
          rw [if_neg hown]
          exact ⟨trip, List.mem_cons_of_mem _ htrip, hnamed⟩

/-- The error of a request names the request, or the deferred close before it that has failed. -/
theorem request_of_sendAndReceive {request : Request}
    (h : sendAndReceive request client = .error (.failed e) after) :
    ∃ trip ∈ (Exchange.send request).trips client, e.request = some trip.request.ref := by
  rw [Exchange.trips]
  cases hpending : closePending client with
  | ok _ clear =>
    rw [sendAndReceive_of_pending hpending] at h
    refine ⟨lastTrip request client, by simp, ?_⟩
    rw [lastTrip_request]
    exact request_of_roundTrip h
  | error stop middle =>
    rw [sendAndReceive_of_stop hpending] at h
    cases h
    rw [closePending_eq] at hpending
    obtain ⟨trip, htrip, hnamed⟩ := request_of_closeEach hpending
    exact ⟨trip, List.mem_append_left _ htrip, hnamed⟩

theorem sendAndReceive_overt (request : Request) (client : Client σ) :
    Overt (sendAndReceive request) client := by
  have hlosses := losses_after_closeEach client.connection.pendingClose (tookPending client)
  rw [← after_closePending] at hlosses
  have hsame : (client.after closePending).losses = client.losses := hlosses
  have hbroken (h : client.connection.isBroken = true) :
      (client.after (sendAndReceive request)).connection.isBroken = true := by
    have hafter := ((Exchange.send request).after_of_isBroken h).1
    rwa [Exchange.perform, Client.after_map] at hafter
  refine ⟨sendAndReceive_candid request client, hbroken, ?_, fun e after h => ?_⟩
  · cases hpending : closePending client with
    | ok _ clear =>
      rw [Client.after_congr (sendAndReceive_of_pending hpending request),
        losses_after_roundTrip, ← hsame, Client.after_of_ok hpending]
    | error stop after =>
      rw [Client.after_of_error (sendAndReceive_of_stop hpending request), ← hsame,
        Client.after_of_error hpending]
  · obtain ⟨trip, -, hnamed⟩ := request_of_sendAndReceive h
    simp [hnamed]

end Connection

/-! ## Results of calls -/

/-- What holds of the result of a call, where `view` is the client that the call uses: a value
comes with a connection that is as usable as before, and an error tells of it. -/
def Told (view : τ → Client σ) (before : Client σ) : EStateM.Result (Stop Error) τ α → Prop
  | .ok _ t => before.Same (view t)
  | .error (.failed e) t => before.Tells e (view t)
  | .error .cancelled _ => True

namespace Told

variable {view : τ → Client σ} {before middle : Client σ} {t : τ}

theorem of_same {result : EStateM.Result (Stop Error) τ α} (h : before.Same middle)
    (hresult : Told view middle result) : Told view before result := by
  cases result with
  | ok a t => exact h.trans hresult
  | error stop t =>
    cases stop with
    | failed e => exact Client.Tells.of_same h hresult
    | cancelled => trivial

end Told

theorem Connection.Overt.told {call : Call σ α} {client : Client σ} (h : Overt call client) :
    Told (fun after => after) client (call client) := by
  cases hcall : call client with
  | ok a after => exact h.same_of_ok hcall
  | error stop after =>
    cases stop with
    | cancelled => trivial
    | failed e =>
      obtain ⟨hiff, hnamed, hlosses, hbroken⟩ := h.failed hcall
      refine ⟨?_, fun _ => hnamed⟩
      constructor
      · exact fun hafter => .inr (.inl ⟨hiff.mp hafter, hnamed⟩)
      · rintro (hbefore | ⟨hfatal, -⟩ | hlost)
        · exact hbroken hbefore
        · exact hiff.mpr hfatal
        · exact absurd hlosses hlost

namespace Cursor

open Connection

variable [Peer σ] {s after : OpenCursor σ} {e : Error}

/-! ## After a failure -/

omit [Peer σ] in
theorem losses_add_cursorCloseFailed (client : Client σ) (id : Int64) (cause : Error) :
    ({ client with journal := client.journal.add (.cursorCloseFailed id cause) } :
        Client σ).losses =
      client.losses ++ if cause.isFatal then [.cursorCloseFailed id cause] else [] := by
  simp only [Client.losses, Journal.add, List.filter_append]
  cases hfatal : cause.isFatal <;> simp [LogEntry.isLoss, hfatal]

/-- A close of whose failure nothing is told breaks the connection exactly if the report of it says
so. -/
theorem closeQuietly_ok (h : closeQuietly s = .ok () after) :
    after.client.connection.isBroken = true ↔
      s.client.connection.isBroken = true ∨ after.client.losses ≠ s.client.losses := by
  have hsame (hclient : s.client.Same after.client) : after.client.connection.isBroken = true ↔
      s.client.connection.isBroken = true ∨ after.client.losses ≠ s.client.losses := by
    rw [hclient.isBroken_eq, hclient.losses_eq]
    simp
  obtain ⟨cursor, hclose | hclose⟩ := close_eq s
  · rw [closeQuietly_of_ok hclose] at h
    cases h
    exact hsame (.refl _)
  · have hovert := closeResource_overt s.cursor.id s.client
    rw [onClient] at hclose
    dsimp only at hclose
    cases hresult : closeResource s.cursor.id s.client with
    | ok _ client =>
      rw [hresult] at hclose
      rw [closeQuietly_of_ok hclose] at h
      cases h
      exact hsame (hovert.same_of_ok hresult)
    | error stop client =>
      rw [hresult] at hclose
      cases stop with
      | cancelled =>
        rw [closeQuietly, hclose] at h
        cases h
      | failed cause =>
        obtain ⟨hiff, -, hlosses, hbroken⟩ := hovert.failed hresult
        rw [closeQuietly_of_failed hclose] at h
        cases h
        rw [losses_add_cursorCloseFailed, hlosses]
        cases hfatal : cause.isFatal with
        | true => simpa using hiff.mpr hfatal
        | false =>
          have hnot : ¬ client.connection.isBroken = true := fun hafter => by
            simp [hiff.mp hafter] at hfatal
          simpa [hnot] using fun hbefore => hnot (hbroken hbefore)

/-- A cursor that is closed after a failure passes it on, and breaks the connection with nothing but
its close. -/
theorem abort_cases (α : Type) (e : Error) (s : OpenCursor σ) :
    (∃ after, abort (α := α) e s = .error (.failed e) after ∧
        (after.client.connection.isBroken = true ↔
          s.client.connection.isBroken = true ∨ after.client.losses ≠ s.client.losses)) ∨
      ∃ after, abort (α := α) e s = .error .cancelled after := by
  cases he : e.isConnectionError with
  | true => exact .inl ⟨_, abort_of_connectionError he, by simp⟩
  | false =>
    cases hclose : closeQuietly s with
    | ok _ after => exact .inl ⟨after, abort_of_closed he hclose, closeQuietly_ok hclose⟩
    | error stop after =>
      cases stop with
      | failed cause => exact absurd hclose (closeQuietly_ne_failed s cause after)
      | cancelled => exact .inr ⟨after, abort_of_cancelled he hclose⟩

/-- An error that has told of the connection still does after the cursor is closed. -/
theorem abort_told {before : Client σ} (hlosses : s.client.losses = before.losses)
    (he : s.client.connection.isBroken = true ↔
      before.connection.isBroken = true ∨ e.isFatal = true ∧ e.request.isSome = true)
    (hrequest : e.isConnectionError = true → e.request.isSome = true) :
    Told OpenCursor.client before (abort (α := α) e s) := by
  rcases abort_cases α e s with ⟨after, habort, hafter⟩ | ⟨after, habort⟩
  · rw [habort]
    refine ⟨?_, hrequest⟩
    rw [hafter, he, hlosses, or_assoc]
  · rw [habort]
    trivial

/-- An error of a page or a row names no request. -/
theorem abort_decode_told (cause : DecodeError) (s : OpenCursor σ) :
    Told OpenCursor.client s.client (abort (α := α) cause s) :=
  abort_told rfl (by simp) fun h => absurd h Bool.false_ne_true

theorem orAbort_told {call : Call σ α} (h : Overt call s.client) :
    Told OpenCursor.client s.client (orAbort call s) := by
  unfold orAbort onClient
  cases hcall : call s.client with
  | ok a client => exact h.same_of_ok hcall
  | error stop client =>
    cases stop with
    | cancelled => trivial
    | failed e =>
      obtain ⟨hiff, hnamed, hlosses, hbroken⟩ := h.failed hcall
      refine abort_told hlosses ?_ fun _ => hnamed
      rw [hiff]
      constructor
      · exact fun hfatal => .inr ⟨hfatal, hnamed⟩
      · rintro (hbefore | ⟨hfatal, -⟩)
        · exact hiff.mp (hbroken hbefore)
        · exact hfatal

omit [Peer σ] in
theorem drop_same (c : Cursor) (client : Client σ) : client.Same (c.drop client) := by
  unfold drop
  split
  · exact .refl _
  · exact ⟨rfl, by simp [Client.losses, Journal.add, LogEntry.isLoss]⟩

end Cursor

/-! ## Queries -/

/-- A query, or the use of a cursor, has failed with an error. -/
inductive Fails [Peer σ] (e : Error) : Client σ → Client σ → Prop
  | openCursor {client after : Client σ} (q : Query)
    (h : q.openCursor client = .error (.failed e) after) : Fails e client after
  | nextRow {s after : OpenCursor σ} (turns : Nat)
    (h : Cursor.nextRow turns s = .error (.failed e) after) : Fails e s.client after.client
  /-- The rows that are left are fetched from a cursor, which is used up. -/
  | rowsLeft {client after : Client σ} {α : Type} (cursor : Cursor)
    (read : Row → Except DecodeError α) (turns : Nat)
    (h : Cursor.consume (Cursor.fetchAll read turns) cursor client = .error (.failed e) after) :
    Fails e client after
  | rowLeft? {client after : Client σ} {α : Type} (cursor : Cursor)
    (read : Row → Except DecodeError α) (turns : Nat)
    (h : Cursor.consume (Cursor.fetchFirst? read turns) cursor client =
      .error (.failed e) after) : Fails e client after
  | rowLeft {client after : Client σ} {α : Type} (cursor : Cursor)
    (read : Row → Except DecodeError α) (turns : Nat)
    (h : Cursor.consume (Cursor.fetchOne read turns) cursor client = .error (.failed e) after) :
    Fails e client after
  | fetchAll {client after : Client σ} {α : Type} (q : Query)
    (read : Row → Except DecodeError α) (turns : Nat)
    (h : q.fetchAll read turns client = .error (.failed e) after) : Fails e client after
  | fetchFirst? {client after : Client σ} {α : Type} (q : Query)
    (read : Row → Except DecodeError α) (turns : Nat)
    (h : q.fetchFirst? read turns client = .error (.failed e) after) : Fails e client after
  | fetchOne {client after : Client σ} {α : Type} (q : Query)
    (read : Row → Except DecodeError α) (turns : Nat)
    (h : q.fetchOne read turns client = .error (.failed e) after) : Fails e client after

namespace Fails

open Connection

variable [Peer σ] {before after : Client σ} {e : Error}

/-- What every query keeps, also one that fails keeps. -/
theorem leaves {Good : Client σ → Prop} {Bad : Error → Client σ → Prop}
    (laws : Query.Laws Good Bad) (h : Fails e before after) (hgood : Good before) :
    Bad e after := by
  have hall {α : Type} (read : Row → Except DecodeError α) (turns : Nat) (s t : OpenCursor σ)
      (hs : Good s.client) (hcall : Cursor.fetchAll read turns s = .error (.failed e) t) :
      Bad e t.client := by
    have hleaves := laws.fetchAll read turns hs
    rwa [hcall] at hleaves
  have hfirst {α : Type} (read : Row → Except DecodeError α) (turns : Nat) (s t : OpenCursor σ)
      (hs : Good s.client) (hcall : Cursor.fetchFirst? read turns s = .error (.failed e) t) :
      Bad e t.client :=
    laws.fetchFirst?_failed read turns hs hcall
  have hone {α : Type} (read : Row → Except DecodeError α) (turns : Nat) (s t : OpenCursor σ)
      (hs : Good s.client) (hcall : Cursor.fetchOne read turns s = .error (.failed e) t) :
      Bad e t.client :=
    laws.fetchOne_failed read turns (fun _ => laws.rowNotFound) hs hcall
  cases h with
  | openCursor q h =>
    have hleaves := laws.openCursor q hgood
    rwa [h] at hleaves
  | @nextRow s t turns h =>
    have hleaves := laws.nextRow turns (s := s) hgood
    rwa [h] at hleaves
  | rowsLeft cursor read turns h => exact laws.consume (hall read turns _ · hgood) h
  | rowLeft? cursor read turns h => exact laws.consume (hfirst read turns _ · hgood) h
  | rowLeft cursor read turns h => exact laws.consume (hone read turns _ · hgood) h
  | fetchAll q read turns h => exact laws.fetch q (hall read turns) hgood h
  | fetchFirst? q read turns h => exact laws.fetch q (hfirst read turns) hgood h
  | fetchOne q read turns h => exact laws.fetch q (hone read turns) hgood h

/-- A query keeps what is told of its connection. -/
theorem told_laws (before : Client σ) : Query.Laws before.Same before.Tells where
  cursor h _ _ := h
  ask {s} h := Told.of_same (h.trans (.tookId s.client)) <|
    Cursor.orAbort_told (s := ⟨Cursor.fetching s.cursor, tookId s.client⟩)
      (sendAndReceive_overt (Cursor.pageRequest s) (tookId s.client))
  abort cause h := Told.of_same h (Cursor.abort_decode_told cause _)
  send {client request} h _ := Told.of_same (h.trans (.tookId client))
    (sendAndReceive_overt request (tookId client)).told
  unwritable _ h := (h.trans (.tookId _)).tells rfl rfl
  unreadable _ h := h.tells rfl rfl
  rowNotFound h := h.tells rfl rfl
  drop c h := h.trans_same (c.drop_same _)

theorem tells (h : Fails e before after) : before.Tells e after :=
  h.leaves (told_laws before) (.refl before)

/-- **After a query has failed, the connection is broken if and only if it was before, or the error
is fatal and names a request, or a close has broken it on the side**, of which there is a report. A
fatal error that names no request is one of a page or a row, and leaves the connection as it is. -/
theorem connection_isBroken_iff (h : Fails e before after) :
    (after.connection.isBroken = true ↔
      before.connection.isBroken = true ∨ e.isFatal = true ∧ e.request.isSome = true ∨
        after.losses ≠ before.losses) ∧
      (e.isFatal = true → e.request = none → ∃ cause, e.kind = .decode cause) := by
  obtain ⟨hiff, hrequest⟩ := h.tells
  refine ⟨hiff, fun hfatal hnone => ?_⟩
  have hown : e.isConnectionError = false :=
    Bool.eq_false_iff.mpr fun hconnection => by simpa [hnone] using hrequest hconnection
  obtain ⟨kind, request⟩ := e
  cases kind with
  | decode cause => exact ⟨cause, rfl⟩
  | handshake cause | transport cause => cases hown
  | config cause | application cause | encode cause => cases hfatal
  | rowNotFound => cases hfatal

/-- A client of a server that answers so. -/
def answeredBy (replies : List Rehearsal.TimedReply) : Client Rehearsal.ScriptedPeer :=
  ⟨{ stream := { peer := { handshake := some [], replies } }, config := .default }, {}⟩

/-- The server refuses to give the second page, and ends the stream at the close. -/
def pageRefused : Client Rehearsal.ScriptedPeer :=
  answeredBy [{ reply := .response [7, 0, 0, 0, 0, 0, 0, 0, 0, 0, 0, 0, 1] 0 0 },
    { reply := .response [TypeCode.null.toByte] 1 0 }, { reply := .endOfStream }]

/-- The error of the server is not fatal, and yet the connection is broken. -/
theorem connection_isBroken_iff_pageRefused :
    ∃ e after, (Query.scan { cache := "c" }).fetchAll Except.ok 3 pageRefused =
        .error (.failed e) after ∧
      e.isFatal = false ∧ after.connection.isBroken = true := by
  have hcall : (Query.scan { cache := "c" }).fetchAll Except.ok 3 pageRefused =
      .error (.failed ⟨.application ⟨⟨.queryScanPage, 2⟩, 1, ""⟩, some ⟨.queryScanPage, 2⟩⟩)
        (pageRefused.after ((Query.scan { cache := "c" }).fetchAll Except.ok 3)) := by cbv
  have hlosses : (pageRefused.after
      ((Query.scan { cache := "c" }).fetchAll Except.ok 3)).losses.length = 1 := by cbv
  have hmore : (pageRefused.after
      ((Query.scan { cache := "c" }).fetchAll Except.ok 3)).losses ≠ pageRefused.losses := by
    intro hsame
    rw [hsame] at hlosses
    cases hlosses
  have hiff := (Fails.fetchAll _ _ 3 hcall).connection_isBroken_iff.1
  exact ⟨_, _, hcall, rfl, hiff.mpr (.inr (.inr hmore))⟩

/-- The server answers with all entries of a cache, which is one, and has numbers in it. -/
def numbersFound : Client Rehearsal.ScriptedPeer :=
  answeredBy [{ reply := .response [7, 0, 0, 0, 0, 0, 0, 0, 1, 0, 0, 0, 1, 5, 1, 6, 0] 0 0 }]

/-- The entries are read as texts. -/
def texts : Call Rehearsal.ScriptedPeer (List (Cells [.string])) :=
  (Query.scan { cache := "c" }).fetchAll (Row.decode · [.string]) 2

/-- The error says that the connection must not be used any more, and the connection is ready. -/
theorem ready_of_numbersFound :
    ∃ e after, texts numbersFound = .error (.failed e) after ∧
      e.isFatal = true ∧ after.connection.isBroken = false := by
  have hcall : texts numbersFound = .error (.failed (DecodeError.unexpectedType .string .byte))
      (numbersFound.after texts) := by cbv
  have hready : (numbersFound.after texts).connection.isBroken = false := by cbv
  exact ⟨_, _, hcall, rfl, hready⟩

end Fails

end ThinClient
