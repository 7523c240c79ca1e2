import ThinClient.Connection

/-!
# A scripted server

The other end of a byte stream that acts out a script. It answers the first frame with one reply
and every later one with the next of a list, each after a delay; a reply is octets, the end of the
stream or a failure. It takes and gives octets in pieces of a chosen size, and takes no more than a
chosen number of them.

Time passes only while a client waits. A wait ends when octets are there, when the time set for it
is over, or when the caller gives up, whichever is first; of octets and an end of the wait at the
same moment the octets win, and of the two ends the time that was set.
-/

namespace ThinClient.Rehearsal

/-- What a server sends for one frame. -/
inductive Reply where
  /-- A response to the request; the offset is added to its correlation id. -/
  | response (payload : Bytes) (status : Int32) (idOffset : Int64)
  /-- A frame with these octets. -/
  | frame (body : Bytes)
  /-- Octets as they are. -/
  | raw (octets : Bytes)
  | endOfStream
  | failure (cause : IoError)
  | nothing

/-- A reply, and how many milliseconds after the frame it comes. -/
structure TimedReply where
  reply : Reply
  delay : Nat := 0

/-- A server accepts the handshake at once unless its script says otherwise. -/
def acceptance : TimedReply :=
  { reply := .frame [Handshake.accepted] }

/-- What a client can find when it reads. -/
inductive Arrival where
  | octets (octets : Bytes)
  | endOfStream
  | failure (cause : IoError)

/-- What a write meets after the last octet that is accepted. -/
inductive WriteEnd where
  | acceptsNothing
  | neverEnds
  | failure (cause : IoError)

/-- A server with its script, and what it has seen so far. -/
structure ScriptedPeer where
  /-- Milliseconds since the start. -/
  now : Nat := 0
  /-- When the caller gives up. -/
  givesUpAt : Nat := 0
  /-- When the time that was set is over. -/
  limitAt : Option Nat := none
  /-- What a client will find, and from when on, in order. -/
  arrivals : List (Nat × Arrival) := []
  handshakeReply : TimedReply := acceptance
  replies : List TimedReply := []
  /-- The greatest number of octets one read gives. -/
  readChunk : Option Nat := none
  /-- The greatest number of octets one write takes. -/
  writeChunk : Option Nat := none
  /-- How many octets will be taken. -/
  writeLeft : Option Nat := none
  writeEnd : WriteEnd := .acceptsNothing
  /-- The octets accepted so far. -/
  accepted : Array UInt8 := #[]
  /-- Accepted octets that are no whole frame yet. -/
  pending : Bytes := []
  /-- The first frame, with its length. -/
  handshake : Option Bytes := none
  /-- The later frames, in order. -/
  requests : List Request := []
  shutdowns : Nat := 0

namespace Reply

/-- A frame with these octets. -/
def framed (body : Bytes) : Bytes :=
  LittleEndian.encode 4 body.length ++ body

/-- What a client finds for a reply to a request with this correlation id. -/
def arrival? (id : Int64) : Reply → Option Arrival
  | response payload status idOffset =>
    some (.octets (framed (Word.encode (id + idOffset) ++ Word.encode status ++ payload)))
  | frame body => some (.octets (framed body))
  | raw octets => if octets.isEmpty then none else some (.octets octets)
  | endOfStream => some .endOfStream
  | failure cause => some (.failure cause)
  | nothing => none

end Reply

namespace ScriptedPeer

/-- The server after it has sent a reply to a request with this correlation id. -/
def send (p : ScriptedPeer) (id : Int64) (reply : TimedReply) : ScriptedPeer :=
  match reply.reply.arrival? id with
  | some arrival => { p with arrivals := p.arrivals ++ [(p.now + reply.delay, arrival)] }
  | none => p

/-- The server after it has received a whole frame. -/
def onFrame (p : ScriptedPeer) (body : Bytes) : ScriptedPeer :=
  match p.handshake with
  | none => { p with handshake := some (Reply.framed body) }.send 0 p.handshakeReply
  | some _ =>
    let request : Request :=
      ⟨⟨Word.decode Int16 (body.take 2)⟩, Word.decode Int64 ((body.drop 2).take 8), body.drop 10⟩
    let p := { p with requests := p.requests ++ [request] }
    match p.replies with
    | [] => p
    | reply :: rest => { p with replies := rest }.send request.id reply

/-- The server after it has looked for whole frames, at most so many. -/
def takeFrames (p : ScriptedPeer) : (atMost : Nat) → ScriptedPeer
  | 0 => p
  | atMost + 1 =>
    match Frame.split p.pending with
    | .whole body rest => takeFrames ({ p with pending := rest }.onFrame body) atMost
    | _ => p

/-- A wait for which nothing happens. -/
def stall {α : Type} (p : ScriptedPeer) : Delivery α × ScriptedPeer :=
  match p.limitAt with
  | some t =>
    if t ≤ p.givesUpAt then (.timedOut, { p with now := max p.now t })
    else (.cancelled, { p with now := max p.now p.givesUpAt })
  | none => (.cancelled, { p with now := max p.now p.givesUpAt })

/-- Whether a wait lasts until some moment. -/
def waitsUntil (p : ScriptedPeer) (moment : Nat) : Bool :=
  moment ≤ max p.now (min p.givesUpAt (p.limitAt.getD p.givesUpAt))

/-- Waits for what comes next. -/
def read (p : ScriptedPeer) : Delivery Bytes × ScriptedPeer :=
  match p.arrivals with
  | [] => p.stall
  | (moment, arrival) :: rest =>
    if p.waitsUntil moment then
      let p := { p with now := max p.now moment }
      match arrival with
      | .octets octets =>
        let n := max 1 (p.readChunk.getD octets.length)
        let later := octets.drop n
        let arrivals := if later.isEmpty then rest else (moment, .octets later) :: rest
        (.done (octets.take n), { p with arrivals })
      | .endOfStream => (.done [], p)
      | .failure cause => (.failed cause, p)
    else p.stall

/-- Takes some of the octets. -/
def write (p : ScriptedPeer) (octets : Bytes) : Delivery Nat × ScriptedPeer :=
  if p.writeLeft = some 0 then
    match p.writeEnd with
    | .acceptsNothing => (.done 0, p)
    | .neverEnds => p.stall
    | .failure cause => (.failed cause, p)
  else
    let n := min (min octets.length (p.writeChunk.getD octets.length))
      (p.writeLeft.getD octets.length)
    let taken := octets.take n
    let pending := p.pending ++ taken
    let p := { p with
      accepted := p.accepted ++ taken.toArray, pending, writeLeft := p.writeLeft.map (· - n) }
    (.done n, p.takeFrames pending.length)

instance : Peer ScriptedPeer where
  limit milliseconds p := { p with limitAt := milliseconds.map (p.now + ·) }
  read := read
  write octets p := p.write octets
  shutdown p := (.done (), { p with shutdowns := p.shutdowns + 1 })

/-- Whether the server has ended the stream. -/
def hasEnded (p : ScriptedPeer) : Bool :=
  p.arrivals.any fun (_, arrival) => arrival matches .endOfStream

/-- The server while a caller waits for so many milliseconds. -/
def patientFor (p : ScriptedPeer) (milliseconds : Nat) : ScriptedPeer :=
  { p with givesUpAt := p.now + milliseconds }

end ScriptedPeer

/-- How long a caller waits unless told otherwise: an hour. -/
def defaultPatience : Nat := 3600000

end ThinClient.Rehearsal
