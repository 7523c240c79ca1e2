import Mathlib
import ThinClient.Connection

/-!
# Calls on a connection

The life of a connection is a sequence of calls, each of which gives a value, fails or is given up.

* `map_apply` and `bind_apply` are what calls made of others do.
* `Exchange` is a call that a connection can get, and `Exchange.perform` what it does.
* `Client.run` are calls one after the other, however each of them ends.
* `closeResource_eq`, `closePending_eq` and `sendAndReceive_eq` say what calls are made of, and
  `exchange_of_response` and `closeEach_of_ok` with their kin how they go on, so that no later proof
  opens them.
-/

namespace ThinClient

variable {σ α : Type}

section Apply

variable {ε τ β : Type} {s : τ}

theorem map_apply (f : α → β) (call : EStateM ε τ α) (s : τ) :
    (f <$> call) s =
      match call s with
      | .ok a s => .ok (f a) s
      | .error stop s => .error stop s := by
  change EStateM.map f call s = _
  unfold EStateM.map
  cases call s <;> rfl

theorem bind_apply (call : EStateM ε τ α) (next : α → EStateM ε τ β) (s : τ) :
    (call >>= next) s =
      match call s with
      | .ok a s => next a s
      | .error stop s => .error stop s := by
  change EStateM.bind call next s = _
  unfold EStateM.bind
  cases call s <;> rfl

end Apply

/-- The client after a call, however it ends. -/
def Client.after (client : Client σ) (call : Call σ α) : Client σ :=
  match call client with
  | .ok _ client | .error _ client => client

namespace Client

variable {α : Type} {client after : Client σ} {call : Call σ α}

theorem after_of_ok {a : α} (h : call client = .ok a after) : client.after call = after := by
  rw [Client.after, h]

theorem after_of_error {stop : Stop Error} (h : call client = .error stop after) :
    client.after call = after := by
  rw [Client.after, h]

theorem after_congr {call' : Call σ α} (h : call client = call' after) :
    client.after call = after.after call' := by
  rw [Client.after, h, Client.after]

/-- The client after a call does not depend on how its value is used. -/
theorem after_map {β : Type} (f : α → β) (call : Call σ α) (client : Client σ) :
    client.after (f <$> call) = client.after call := by
  unfold Client.after
  rw [map_apply]
  cases call client <;> rfl

end Client

/-- A call that exchanges frames, or makes ready for it. -/
inductive Exchange where
  | send (request : Request)
  | close (resource : Int64)
  | closePending
  | defer (resource : Int64)

namespace Exchange

/-- What the call does; a response comes only from a request that is sent as such. -/
def perform [Peer σ] : Exchange → Call σ (Option Response)
  | send request => some <$> Connection.sendAndReceive request
  | close resource => (fun _ => none) <$> Connection.closeResource resource
  | closePending => (fun _ => none) <$> Connection.closePending
  | defer resource => (fun _ => none) <$> Connection.deferClose resource

/-- Whether the call has a request to send. -/
def sends (client : Client σ) : Exchange → Bool
  | send _ | close _ => true
  | closePending => !client.connection.pendingClose.isEmpty
  | defer _ => false

/-- Whether the call is given up before it is over. -/
def isGivenUp [Peer σ] (exchange : Exchange) (client : Client σ) : Bool :=
  match exchange.perform client with
  | .error .cancelled _ => true
  | _ => false

end Exchange

namespace Client

variable [Peer σ]

/-- The client after calls one after the other. -/
def run (client : Client σ) (calls : List Exchange) : Client σ :=
  calls.foldl (fun client exchange => client.after exchange.perform) client

@[simp] theorem run_nil (client : Client σ) : client.run [] = client := rfl

@[simp] theorem run_cons (client : Client σ) (exchange : Exchange) (calls : List Exchange) :
    client.run (exchange :: calls) = (client.after exchange.perform).run calls := rfl

theorem run_append (client : Client σ) (first second : List Exchange) :
    client.run (first ++ second) = (client.run first).run second :=
  List.foldl_append

end Client

namespace Connection

variable [Peer σ] {client : Client σ}

/-! ## What calls are made of -/

/-- The client after it has taken a correlation id. -/
def tookId (client : Client σ) : Client σ :=
  client.withConnection { client.connection with ids := client.connection.ids.next.2 }

omit [Peer σ] in
theorem beginRequest_eq (op : Operation) (client : Client σ) :
    beginRequest op client = .ok ⟨op, client.connection.ids.next.1, []⟩ (tookId client) := rfl

/-- The client after it has taken the deferred closes out of their queue. -/
def tookPending (client : Client σ) : Client σ :=
  client.withConnection { client.connection with pendingClose := [] }

/-- The request of a close, with the next correlation id. -/
def closeRequest (client : Client σ) (resource : Int64) : Request :=
  Request.putWord ⟨.resourceClose, client.connection.ids.next.1, []⟩ resource

section Exchange

variable {timeout : Option Nat} {request : RequestRef} {frame : Bytes}
  {s flushed received : Stream σ}
  (hflush : Stream.flush { s with peer := Peer.limit timeout s.peer } = .ok () flushed)
  (hreceive : flushed.receiveFrame = .ok frame received)

include hflush hreceive

theorem exchange_of_response {response : Response}
    (h : Response.ofFrame request frame = .ok response) :
    exchange timeout request s =
      .ok response { received with peer := Peer.limit none received.peer } := by
  unfold exchange
  simp only [bind, EStateM.bind, onStream, Stream.within, hflush, hreceive, h]
  rfl

theorem exchange_of_failure {e : Error} (h : Response.ofFrame request frame = .error e) :
    exchange timeout request s =
      .error (.failed e) { received with peer := Peer.limit none received.peer } := by
  unfold exchange
  simp only [bind, EStateM.bind, onStream, Stream.within, hflush, hreceive, h]
  rfl

end Exchange

theorem closeResource_eq (resource : Int64) (client : Client σ) :
    closeResource resource client =
      ((fun _ => ()) <$> roundTrip (closeRequest client resource)) (tookId client) := rfl

theorem closePending_eq (client : Client σ) :
    closePending client = closeEach client.connection.pendingClose (tookPending client) := rfl

section CloseEach

variable {resource : Int64} {rest : List Int64} {after : Client σ}

theorem closeEach_of_ok (h : closeResource resource client = .ok () after) :
    closeEach (resource :: rest) client = closeEach rest after := by
  simp only [closeEach, h]

theorem closeEach_of_failed {e : Error}
    (h : closeResource resource client = .error (.failed e) after) :
    closeEach (resource :: rest) client =
      if e.isConnectionError then .error (.failed e) after
      else
        closeEach rest { after with journal := after.journal.add (.closeFailed resource e) } := by
  simp only [closeEach, h]

theorem closeEach_of_cancelled (h : closeResource resource client = .error .cancelled after) :
    closeEach (resource :: rest) client = .error .cancelled after := by
  simp only [closeEach, h]

end CloseEach

theorem sendAndReceive_eq (request : Request) :
    sendAndReceive (σ := σ) request = closePending >>= fun _ => roundTrip request := rfl

theorem closePending_nil (hpending : client.connection.pendingClose = []) :
    closePending client = .ok () client := by
  have h : tookPending client = client := by
    rw [tookPending, ← hpending]
    rfl
  rw [closePending_eq, hpending, h]
  rfl

theorem roundTrip_of_unwritable {request : Request} {e : EncodeError}
    (hphase : client.connection.phase = .ready) (h : request.frame = .error e) :
    roundTrip request client = .error (.failed (Error.withRequest e request.ref)) client := by
  unfold roundTrip
  simp only [hphase, h]
  rfl

end Connection

end ThinClient
