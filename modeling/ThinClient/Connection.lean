import ThinClient.Config
import ThinClient.CorrelationId
import ThinClient.Journal
import ThinClient.Protocol.Handshake
import ThinClient.Stream

/-!
# Connections

A connection exchanges one request for one response at a time. It is ready between two exchanges
and in flight during one. A failure that leaves the two sides out of step breaks it, and so does a
request that finds it in flight, because the exchange before was given up. A broken connection
refuses every request without touching its stream.

Closes of things the server holds can be deferred: they are sent before the next request.

* `Connection.establish` performs the handshake.
* `Connection.roundTrip` is one exchange; `Connection.sendAndReceive` sends deferred closes first.
* `Connection.closePending` sends the deferred closes; a close that the server refuses is only
  reported.
-/

namespace ThinClient

/-- Whether a connection can be used. -/
inductive Phase where
  | ready
  | inFlight
  | broken
  deriving DecidableEq

/-- A connection to a server. -/
structure Connection (σ : Type) where
  stream : Stream σ
  config : Config
  ids : IdSource := .default
  phase : Phase := .ready
  /-- What the server holds and is to release before the next request, in order. -/
  pendingClose : List Int64 := []

/-- A connection and the journal of its client. -/
structure Client (σ : Type) where
  connection : Connection σ
  journal : Journal := {}

/-- Calls of a client: they give a value, fail, or are given up. -/
abbrev Call (σ : Type) := EStateM (Stop Error) (Client σ)

/-- Fails with an error. -/
def fail {σ α : Type} (error : Error) : Call σ α :=
  throw (.failed error)

namespace Connection

variable {σ : Type}

/-- Whether the connection cannot be used any more. -/
def isBroken (c : Connection σ) : Bool :=
  c.phase ≠ .ready

/-- A call on the stream alone, whose failures are failures of the exchange of frames. -/
def onStream {α : Type} (call : Stream.Call σ α) :
    EStateM (Stop Error) (Stream σ) α := fun s =>
  match call s with
  | .ok a s => .ok a s
  | .error (.failed e) s => .error (.failed e) s
  | .error .cancelled s => .error .cancelled s

/-- Asks for the version of the configuration and waits for the answer. -/
def shakeHands [Peer σ] (config : Config) : EStateM (Stop Error) (Stream σ) Unit := do
  modify (·.push (Handshake.request config.version))
  let frame ← onStream <| Stream.within config.timeout do
    Stream.flush
    Stream.receiveFrame
  match Handshake.ofFrame config.version frame with
  | .ok () => return ()
  | .error e => throw (.failed e)

/-- Opens a connection over a byte stream. -/
def establish [Peer σ] (config : Config) : EStateM (Stop Error) (Stream σ) (Connection σ) := do
  shakeHands config
  return { stream := ← get, config }

/-- Sends what is unsent and waits for the answer to a request. -/
def exchange [Peer σ] (timeout : Option Nat) (request : RequestRef) :
    EStateM (Stop Error) (Stream σ) Response := do
  let frame ← onStream <| Stream.within timeout do
    Stream.flush
    Stream.receiveFrame
  match Response.ofFrame request frame with
  | .ok response => return response
  | .error e => throw (.failed e)

/-- The connection after an exchange that gave a response. -/
def answered (c : Connection σ) (stream : Stream σ) : Connection σ :=
  { c with stream, phase := .ready }

/-- The connection after an exchange that failed. -/
def failed (c : Connection σ) (stream : Stream σ) (error : Error) : Connection σ :=
  { c with stream, phase := if error.isFatal then .broken else .ready }

/-- The connection after an exchange that was given up. -/
def abandoned (c : Connection σ) (stream : Stream σ) : Connection σ :=
  { c with stream, phase := .inFlight }

end Connection

namespace Client

variable {σ : Type}

/-- The client with another state of its connection. -/
def withConnection (client : Client σ) (connection : Connection σ) : Client σ :=
  { client with connection }

end Client

namespace Connection

variable {σ : Type}

/-- Changes the connection. -/
def update (change : Connection σ → Connection σ) : Call σ Unit :=
  modify fun client => client.withConnection (change client.connection)

/-- Reports something. -/
def report (entry : LogEntry) : Call σ Unit :=
  modify fun client => { client with journal := client.journal.add entry }

/-- Takes the next correlation id. -/
def nextId : Call σ Int64 := do
  let (id, ids) := (← get).connection.ids.next
  update ({ · with ids })
  return id

/-- Starts a request with the next correlation id. -/
def beginRequest (op : Operation) : Call σ Request :=
  return { op, id := ← nextId }

/-- Sends a request and waits for its response. -/
def roundTrip [Peer σ] (request : Request) : Call σ Response := fun client =>
  let c := client.connection
  let refuse (error : Error) (c : Connection σ) :=
    .error (.failed (error.withRequest request.ref)) (client.withConnection c)
  match c.phase with
  | .inFlight => refuse TransportError.interrupted { c with phase := .broken }
  | .broken => refuse TransportError.broken c
  | .ready =>
    match request.frame with
    | .error e => refuse e c
    | .ok octets =>
      match exchange c.config.timeout request.ref (c.stream.push octets) with
      | .ok response stream => .ok response (client.withConnection (c.answered stream))
      | .error (.failed e) stream => refuse e (c.failed stream e)
      | .error .cancelled stream =>
        .error .cancelled (client.withConnection (c.abandoned stream))

/-- Lets the server release something now. -/
def closeResource [Peer σ] (resource : Int64) : Call σ Unit := do
  let request ← beginRequest .resourceClose
  discard <| roundTrip (request.putWord resource)

/-- Lets the server release something before the next request. -/
def deferClose (resource : Int64) : Call σ Unit :=
  update fun c => { c with pendingClose := c.pendingClose ++ [resource] }

/-- Lets the server release things, one after the other. A failure of the exchange of frames ends
this and is returned, every other failure is reported. -/
def closeEach [Peer σ] : List Int64 → Call σ Unit
  | [] => return ()
  | resource :: rest => fun client =>
    match closeResource resource client with
    | .ok () client => closeEach rest client
    | .error (.failed e) client =>
      if e.isConnectionError then .error (.failed e) client
      else closeEach rest { client with journal := client.journal.add (.closeFailed resource e) }
    | .error .cancelled client => .error .cancelled client

/-- Sends the deferred closes; none of them stays deferred. -/
def closePending [Peer σ] : Call σ Unit := do
  let pending := (← get).connection.pendingClose
  update ({ · with pendingClose := [] })
  closeEach pending

/-- Sends the deferred closes, then a request, and waits for its response. -/
def sendAndReceive [Peer σ] (request : Request) : Call σ Response := do
  closePending
  roundTrip request

/-- Sends the deferred closes, if the connection can be used, and says that nothing more will be
sent. -/
def close [Peer σ] : Call σ Unit := do
  if (← get).connection.phase = .ready then closePending
  update ({ · with pendingClose := [] })
  fun client =>
    let c := client.connection
    match onStream Stream.shutdown c.stream with
    | .ok () stream => .ok () (client.withConnection { c with stream })
    | .error stop stream => .error stop (client.withConnection { c with stream })

/-- The journal after a connection is dropped. -/
def dropped (c : Connection σ) (journal : Journal) : Journal :=
  if c.pendingClose.isEmpty then journal
  else journal.add (.connectionDropped c.pendingClose.length)

end Connection

end ThinClient
