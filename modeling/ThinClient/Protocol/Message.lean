import ThinClient.Error
import ThinClient.Value.Decode

/-!
# Requests and responses

Client and server exchange frames: a signed 32-bit length and so many octets. A request frame holds
operation, correlation id and payload; a response frame holds correlation id, status and, for the
status 0, a payload, otherwise a tagged text.

* `Request.frame` is the frame of a request.
* `Response.ofFrame` reads what a response frame holds as the answer to a request.
* `Frame.split` looks for a frame at the front of what has been received.
-/

namespace ThinClient

/-- What stands at the front of received octets. -/
inductive FrameSplit where
  /-- A whole frame, without its length, and what follows it. -/
  | whole (body rest : Bytes)
  /-- The beginning of a frame. -/
  | incomplete
  /-- A length below zero. -/
  | negative

namespace Frame

/-- The number of octets of a length. -/
def lengthWidth : Nat := 4

/-- Looks for a frame at the front of what has been received. -/
def split (received : Bytes) : FrameSplit :=
  if received.length < lengthWidth then .incomplete
  else
    let length := Word.decode Int32 (received.take lengthWidth)
    if length < 0 then .negative
    else
      let n := length.toInt.toNat
      let body := received.drop lengthWidth
      if body.length < n then .incomplete else .whole (body.take n) (body.drop n)

/-- The least number of octets that a received beginning of a frame lacks; it goes down whenever
more is received, also when the length becomes known. -/
def missing (received : Bytes) : Nat :=
  if received.length < lengthWidth then LittleEndian.capacity lengthWidth - received.length
  else lengthWidth + (Word.decode Int32 (received.take lengthWidth)).toInt.toNat - received.length

end Frame

/-- A request whose payload is being put together. -/
structure Request where
  op : Operation
  id : Int64
  payload : Bytes := []
  deriving DecidableEq

namespace Request

/-- The length of operation and correlation id. -/
def headerLength : Nat := 10

/-- How messages name the request. -/
def ref (r : Request) : RequestRef :=
  ⟨r.op, r.id⟩

/-- The request with more octets at the end of its payload. -/
def append (r : Request) (octets : Bytes) : Request :=
  { r with payload := r.payload ++ octets }

/-- The request with a word at the end of its payload. -/
def putWord {α : Type} [Word α] (r : Request) (a : α) : Request :=
  r.append (Word.encode a)

/-- The request with a truth value at the end of its payload. -/
def putBool (r : Request) (b : Bool) : Request :=
  r.append (encodeBool b)

/-- The request with a tagged text or null at the end of its payload. -/
def putText (r : Request) (text : Option String) : Except EncodeError Request :=
  return r.append (← encodeNullableText text)

/-- The request with a tagged value at the end of its payload. -/
def putValue (r : Request) (value : WireValue) : Except EncodeError Request :=
  return r.append (← value.encode)

/-- The frame of a request. -/
def frame (r : Request) : Except EncodeError Bytes := do
  let length ← encodeLength "request" (headerLength + r.payload.length)
  return length ++ Word.encode r.op.code ++ Word.encode r.id ++ r.payload

end Request

/-- The answer to a request. -/
structure Response where
  op : Operation
  id : Int64
  payload : Bytes
  deriving DecidableEq

namespace Response

/-- The length of correlation id and status. -/
def headerLength : Nat := 12

/-- The text that a server sends with a status other than 0; a null counts as an empty text. -/
def explanation (octets : Bytes) : Except DecodeError String :=
  match WireValue.readNullableText octets with
  | .ok text _ => .ok (text.getD "")
  | .error e _ => .error e

/-- What a response frame says, as the answer to a request. -/
def ofFrame (request : RequestRef) (frame : Bytes) : Except Error Response :=
  if frame.length < headerLength then
    .error (TransportError.malformedFrame .shortResponse)
  else
    let found := Word.decode Int64 (frame.take 8)
    let status := Word.decode Int32 ((frame.drop 8).take 4)
    let payload := frame.drop headerLength
    if found ≠ request.id then
      .error (TransportError.correlationMismatch request.id found)
    else if status = 0 then .ok ⟨request.op, request.id, payload⟩
    else
      match explanation payload with
      | .ok text => .error ({ request, status, explanation := text } : ApplicationError)
      | .error e => .error e

end Response

end ThinClient
