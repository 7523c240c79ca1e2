import ThinClient.Rehearsal.Peer

/-!
# Streams against a scripted server

A run of single operations on a byte stream, with what each gave, what the server accepted during
it and what is still unsent after it. What the server sends is there from the start; it answers
nothing.
-/

namespace ThinClient.Rehearsal

/-- An operation on a byte stream. -/
inductive StreamAction where
  | receive
  | write (octets : Bytes)
  | flush
  | shutdown

/-- An operation and how many milliseconds the caller waits for it. -/
structure StreamStep where
  action : StreamAction
  patience : Nat := defaultPatience

/-- What an operation on a byte stream gave. -/
inductive StreamResult where
  | octets (octets : Bytes)
  | length (length : Nat)
  | done
  | failed (error : Error)
  | cancelled

/-- What an operation did. -/
structure StreamReport where
  result : StreamResult
  accepted : Bytes
  unsent : Bytes

/-- What a call gave, and the stream after it. -/
def settleStream {α : Type} (ok : α → StreamResult) :
    EStateM.Result (Stop TransportError) (Stream ScriptedPeer) α →
      StreamResult × Stream ScriptedPeer
  | .ok a s => (ok a, s)
  | .error (.failed e) s => (.failed e, s)
  | .error .cancelled s => (.cancelled, s)

/-- Performs one operation. -/
def StreamStep.run (step : StreamStep) (s : Stream ScriptedPeer) :
    StreamReport × Stream ScriptedPeer :=
  let before := s.peer.accepted.size
  let s := { s with peer := s.peer.patientFor step.patience }
  let (result, s) :=
    match step.action with
    | .receive => settleStream .octets s.receiveFrame
    | .write octets =>
      let s := s.push octets
      (.length s.unsent.length, s)
    | .flush => settleStream (fun _ => .done) s.flush
    | .shutdown => settleStream (fun _ => .done) s.shutdown
  (⟨result, s.peer.accepted.toList.drop before, s.unsent⟩, s)

/-- Performs operations one after the other. -/
def runStream (s : Stream ScriptedPeer) : List StreamStep → List StreamReport × Stream ScriptedPeer
  | [] => ([], s)
  | step :: rest =>
    let (report, s) := step.run s
    let (reports, s) := runStream s rest
    (report :: reports, s)

/-- The server with replies that are there from the start, and no others whatever it gets. -/
def ScriptedPeer.withInbound (p : ScriptedPeer) (replies : List TimedReply) : ScriptedPeer :=
  replies.foldl (fun p reply => p.send 0 reply)
    { p with handshakeReply := { reply := .nothing }, replies := [] }

end ThinClient.Rehearsal
