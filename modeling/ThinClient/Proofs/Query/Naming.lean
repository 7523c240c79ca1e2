import ThinClient.Proofs.Connection.Silence
import ThinClient.Proofs.Query.Failures
import ThinClient.Proofs.Query.Lifetime

/-!
# Which request an error names

A round trip puts its request into every error that it passes on. A query goes on from there: it
takes the id of its cursor, columns, pages and rows from the answers, and what goes wrong then was
never near a round trip.

* `Order.trips` are the requests that an order hands to the connection.
* `Raised` is an error with which an order has failed, after others have been carried out. It names
  a request of that order (`ask_leaves`), and `Raised.garbled` says when such an error is one of
  reading.
* `IsOwn` is an error that does not come from a request.
* `Fails.context_cases`: **an error of a query names a request that was handed to the connection, or
  it is an error of its own and names none**. So all that goes wrong in an exchange of frames and
  every status of the server is named, and of what cannot be read only the reason of a refusal.
-/

namespace ThinClient

open Connection

variable {σ : Type} [Peer σ]

theorem RequestRef.text_ne_empty (r : RequestRef) : r.text ≠ "" := by
  intro h
  have hlength := congrArg String.length h
  simp [text, String.length_append] at hlength

/-- The requests that an order hands to the connection. -/
def Order.trips (client : Client σ) : Order → List Trip
  | ask op payload =>
    (Exchange.send ⟨op, client.connection.ids.next.1, payload⟩).trips (tookId client)
  | close resource => (Exchange.close resource).trips client
  | defer resource => (Exchange.defer resource).trips client

/-- An error with which an order has failed, after others have been carried out, and which names a
request that this order has handed to the connection. -/
def Raised (before : Client σ) (e : Error) (named : RequestRef) : Prop :=
  ∃ orders middle op payload after, Carried before orders middle ∧
    (Order.ask op payload).perform middle = .error (.failed e) after ∧
    (∃ trip ∈ (Order.ask op payload).trips middle, trip.request.ref = named) ∧
    e.request = some named

/-- An error that comes from no request: something cannot be written or read, or is not there. -/
structure IsOwn (e : Error) : Prop where
  request_eq : e.request = none
  kind : (∃ cause, e.kind = .decode cause) ∨ (∃ cause, e.kind = .encode cause) ∨
    e.kind = .rowNotFound

/-- An error that names a request, or is of its own. -/
def Sourced (before : Client σ) (e : Error) : Prop :=
  (∃ named, Raised before e named) ∨ IsOwn e

variable {before client : Client σ} {orders : List Order}

/-- A request that has the next correlation id is carried out, or its failure comes from it. -/
theorem ask_leaves (op : Operation) (payload : Bytes) (h : Carried before orders client) :
    Leaves (fun after => ∃ orders, Carried before orders after) (fun e _ => Sourced before e)
      (sendAndReceive ⟨op, client.connection.ids.next.1, payload⟩ (tookId client)) := by
  have hperform := perform_ask op payload client
  cases hcall : sendAndReceive ⟨op, client.connection.ids.next.1, payload⟩ (tookId client) with
  | ok response after =>
    refine ⟨_, .snoc (.ask op payload) h ?_⟩
    rw [map_apply, hcall] at hperform
    rw [Client.after_of_ok hperform]
  | error stop after =>
    cases stop with
    | cancelled => trivial
    | failed e =>
      rw [map_apply, hcall] at hperform
      obtain ⟨trip, htrip, hnamed⟩ := request_of_sendAndReceive hcall
      exact .inl ⟨_, orders, client, op, payload, after, h, hperform, ⟨trip, htrip, rfl⟩, hnamed⟩

theorem abort_sourced {α : Type} {e : Error} (h : Sourced before e) (s : OpenCursor σ) :
    Leaves (fun after => ∃ orders, Carried before orders after.client) (fun e _ => Sourced before e)
      (Cursor.abort (α := α) e s) := by
  obtain ⟨stop, after, habort, rfl | rfl⟩ := Cursor.abort_stops α e s
  · rw [habort]
    exact h
  · rw [habort]
    trivial

theorem decode_isOwn (cause : DecodeError) : IsOwn { kind := .decode cause } :=
  ⟨rfl, .inl ⟨cause, rfl⟩⟩

/-- **What a query does with its connection is orders, and what it fails with comes from one of them
or is its own.** -/
theorem sourced_laws (before : Client σ) :
    Query.Laws (fun client => ∃ orders, Carried before orders client)
      fun e _ => Sourced before e where
  cursor h _ _ := h
  ask {s} h := by
    obtain ⟨orders, hcarried⟩ := h
    have hasked := ask_leaves s.cursor.pageOp (Word.encode s.cursor.id) hcarried
    change Leaves _ _ (sendAndReceive (Cursor.pageRequest s) (tookId s.client)) at hasked
    unfold Cursor.orAbort Cursor.onClient
    cases hcall : sendAndReceive (Cursor.pageRequest s) (tookId s.client) with
    | ok response client =>
      rw [hcall] at hasked
      exact hasked
    | error stop client =>
      rw [hcall] at hasked
      cases stop with
      | cancelled => trivial
      | failed e => exact abort_sourced hasked _
  abort cause _ := abort_sourced (.inr (decode_isOwn cause)) _
  send {client request} h hid := by
    obtain ⟨orders, hcarried⟩ := h
    obtain ⟨op, id, payload⟩ := request
    obtain rfl : id = client.connection.ids.next.1 := hid
    exact ask_leaves op payload hcarried
  unwritable cause _ := .inr ⟨rfl, .inr (.inl ⟨cause, rfl⟩)⟩
  unreadable cause _ := .inr (decode_isOwn cause)
  rowNotFound _ := .inr ⟨rfl, .inr (.inr rfl)⟩
  drop _ h := h

/-- An error of reading that names a request is that of a refusal whose reason cannot be read. -/
theorem Raised.garbled {e : Error} {named : RequestRef} {cause : DecodeError}
    (h : Raised before e named) (he : e.kind = .decode cause) :
    ∃ (clear : Client σ) (request : Request) (frame : Bytes), request.ref = named ∧
      clear.connection.answer? request = some frame ∧ Response.Garbled named frame cause := by
  obtain ⟨orders, middle, op, payload, after, -, hfailed, -, hnamed⟩ := h
  have hcall : sendAndReceive ⟨op, middle.connection.ids.next.1, payload⟩ (tookId middle) =
      .error (.failed e) after := by
    rw [perform_ask, map_apply] at hfailed
    split at hfailed
    next => cases hfailed
    next hcall =>
      cases hfailed
      exact hcall
  have hown : e.isConnectionError = false := by rw [Error.isConnectionError, he]; rfl
  have hfatal : e.isFatal = true := by rw [Error.isFatal, he]; rfl
  cases hpending : closePending (tookId middle) with
  | error stop cut =>
    rw [sendAndReceive_of_stop hpending] at hcall
    cases hcall
    rw [closePending_eq] at hpending
    have hconnection := isConnectionError_of_closeEach _ hpending
    rw [hown] at hconnection
    cases hconnection
  | ok _ clear =>
    rw [sendAndReceive_of_pending hpending] at hcall
    obtain ⟨frame, cause', hanswer, hgarbled, rfl⟩ := roundTrip_garbled hcall hfatal hown
    cases he
    cases hnamed
    exact ⟨clear, _, frame, rfl, hanswer, hgarbled⟩

namespace Fails

variable {e : Error} {after : Client σ}

theorem sourced (h : Fails e before after) : Sourced before e :=
  h.leaves (sourced_laws before) ⟨[], .none rfl⟩

/-- **An error of the exchange of frames and a status of the server name a request that the query
has handed to the connection. An error of reading names one if it is the reason of a refusal that
cannot be read, and otherwise it names none**: whatever is wrong with the id of a cursor, with its
columns, a page, a row, or what a row is read as, nobody learns from the error whose answer that
was. -/
theorem context_cases (h : Fails e before after) :
    ((∃ cause, e.kind = .transport cause) ∨ (∃ cause, e.kind = .application cause) →
        ∃ named, Raised before e named ∧ e.context = named.text ∧ e.context ≠ "") ∧
      ∀ cause, e.kind = .decode cause →
        (e.request = none ∧ e.context = "") ∨
          ∃ named, Raised before e named ∧ e.context = named.text ∧ e.context ≠ "" ∧
            ∃ (clear : Client σ) (request : Request) (frame : Bytes), request.ref = named ∧
              clear.connection.answer? request = some frame ∧
              Response.Garbled named frame cause := by
  have hcontext {named : RequestRef} (hraised : Raised before e named) :
      e.context = named.text ∧ e.context ≠ "" := by
    obtain ⟨-, -, -, -, -, -, -, -, hnamed⟩ := hraised
    have htext : e.context = named.text := by rw [Error.context, hnamed]
    exact ⟨htext, htext ▸ named.text_ne_empty⟩
  rcases h.sourced with ⟨named, hraised⟩ | ⟨hrequest, hkind⟩
  · obtain ⟨htext, hne⟩ := hcontext hraised
    exact ⟨fun _ => ⟨named, hraised, htext, hne⟩,
      fun cause he => .inr ⟨named, hraised, htext, hne, hraised.garbled he⟩⟩
  · refine ⟨fun hother => ?_, fun _ _ => .inl ⟨hrequest, by rw [Error.context, hrequest]⟩⟩
    rcases hother with ⟨cause, he⟩ | ⟨cause, he⟩ <;> simp [he] at hkind

/-- The status with which the server refuses the second page. -/
theorem context_cases_pageRefused :
    ∃ e after named, Fails e pageRefused after ∧ e.kind = .application ⟨named, 1, ""⟩ ∧
      e.context = named.text ∧ e.context ≠ "" := by
  have hcall : (Query.scan { cache := "c" }).fetchAll Except.ok 3 pageRefused =
      .error (.failed ⟨.application ⟨⟨.queryScanPage, 2⟩, 1, ""⟩, some ⟨.queryScanPage, 2⟩⟩)
        (pageRefused.after ((Query.scan { cache := "c" }).fetchAll Except.ok 3)) := by cbv
  have hfails := Fails.fetchAll _ _ 3 hcall
  obtain ⟨named, hraised, htext, hne⟩ := hfails.context_cases.1 (.inr ⟨_, rfl⟩)
  obtain ⟨-, -, -, -, -, -, -, -, hnamed⟩ := hraised
  cases hnamed
  exact ⟨_, _, _, hfails, rfl, htext, hne⟩

/-- The server answers a query with less than the id of a cursor. -/
def idCutOff : Client Rehearsal.ScriptedPeer :=
  answeredBy [{ reply := .response [7] 0 0 }]

/-- The request was sent and answered, and the error does not name it. -/
theorem context_of_idCutOff :
    ∃ e after, (Query.scan { cache := "c" }).fetchAll Except.ok 3 idCutOff =
        .error (.failed e) after ∧
      e.kind = .decode (.truncated 8 1) ∧ e.context = "" ∧ after.connection.phase = .ready ∧
      after.connection.ids.taken = 1 := by
  have hcall : (Query.scan { cache := "c" }).fetchAll Except.ok 3 idCutOff =
      .error (.failed (DecodeError.truncated 8 1))
        (idCutOff.after ((Query.scan { cache := "c" }).fetchAll Except.ok 3)) := by cbv
  have hready : (idCutOff.after
      ((Query.scan { cache := "c" }).fetchAll Except.ok 3)).connection.phase = .ready := by cbv
  have htaken : (idCutOff.after
      ((Query.scan { cache := "c" }).fetchAll Except.ok 3)).connection.ids.taken = 1 := by cbv
  exact ⟨_, _, hcall, rfl, rfl, hready, htaken⟩

end Fails

end ThinClient
