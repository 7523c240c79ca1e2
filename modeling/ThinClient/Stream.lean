import ThinClient.Protocol.Message

/-!
# Byte streams

What a client knows about the other end of its byte stream is how each wait on it ends: octets
arrive or are accepted, the stream fails, the time for the wait is over, or the caller no longer
waits. `Peer` is the class of the states of another end, and nothing is assumed about it. A stream
below that buffers what is written is flushed behind the write of the last octets; that is no wait
of its own here, and the write reports how it ends.

A `Stream` buffers in both directions. Octets to send stay in `unsent` until the peer accepts them,
octets received stay in `received` until they are a whole frame, and neither is lost when a wait
ends early.

* `Stream.flush` sends all that is unsent, in as many pieces as the peer takes.
* `Stream.receiveFrame` gives the next frame, however the octets are cut into pieces.
-/

namespace ThinClient

/-- How one wait on the other end of a byte stream ends. -/
inductive Delivery (α : Type) where
  | done (value : α)
  | failed (cause : IoError)
  /-- The time that was set for the wait is over. -/
  | timedOut
  /-- The caller no longer waits. -/
  | cancelled

/-- The states of the other end of a byte stream. -/
class Peer (σ : Type) where
  /-- Sets how many milliseconds the following waits may take together, or takes this back. -/
  limit : Option Nat → σ → σ
  /-- Waits for octets; none at all mean the end of the stream. -/
  read : σ → Delivery Bytes × σ
  /-- Offers octets and says how many of them were accepted. -/
  write : Bytes → σ → Delivery Nat × σ
  /-- Says that nothing more will be sent. -/
  shutdown : σ → Delivery Unit × σ

/-- Why a call does not give a value. -/
inductive Stop (ε : Type) where
  | failed (error : ε)
  /-- The caller gave the call up before it was over. -/
  | cancelled

/-- The value of a wait, or why there is none. -/
def Delivery.toExcept {α : Type} : Delivery α → Except (Stop TransportError) α
  | done value => .ok value
  | failed cause => .error (.failed (.io cause))
  | timedOut => .error (.failed .timedOut)
  | cancelled => .error .cancelled

/-- A byte stream with buffers in both directions. -/
structure Stream (σ : Type) where
  peer : σ
  received : Bytes := []
  unsent : Bytes := []

namespace Frame

theorem missing_append_lt (received more : Bytes) (hmore : more ≠ [])
    (hsplit : split received = .incomplete) : missing (received ++ more) < missing received := by
  have hpos : 0 < more.length := List.length_pos_iff.mpr hmore
  have hword (bs : Bytes) : (Word.decode Int32 bs).toInt.toNat < 2147483648 := by
    have := (Word.decode Int32 bs).toInt_lt
    omega
  have hcapacity : LittleEndian.capacity lengthWidth = 4294967296 := rfl
  unfold split at hsplit
  unfold missing
  by_cases hshort : received.length < lengthWidth
  · have := hword ((received ++ more).take lengthWidth)
    simp only [hshort, if_true, List.length_append, hcapacity]
    split <;> simp only [lengthWidth] at * <;> omega
  · have htake : (received ++ more).take lengthWidth = received.take lengthWidth :=
      List.take_append_of_le_length (by omega)
    simp only [hshort, if_false] at hsplit ⊢
    rw [htake]
    split at hsplit
    · cases hsplit
    · split at hsplit
      · rename_i hbody
        have hlong : ¬ (received ++ more).length < lengthWidth := by
          rw [List.length_append]; omega
        rw [List.length_drop] at hbody
        rw [if_neg hlong, List.length_append]
        omega
      · cases hsplit

end Frame

namespace Stream

variable {σ : Type} [Peer σ]

/-- Calls that use a stream. -/
abbrev Call (σ : Type) := EStateM (Stop TransportError) (Stream σ)

/-- The stream with more octets to send. -/
def push (s : Stream σ) (octets : Bytes) : Stream σ :=
  { s with unsent := s.unsent ++ octets }

/-- Sends all that is unsent. -/
def flush (s : Stream σ) : EStateM.Result (Stop TransportError) (Stream σ) Unit :=
  if _hunsent : s.unsent = [] then .ok () s
  else
    let (delivery, peer) := Peer.write s.unsent s.peer
    match delivery.toExcept with
    | .error stop => .error stop { s with peer }
    | .ok 0 => .error (.failed (.io .writeZero)) { s with peer }
    | .ok (n + 1) => flush { s with peer, unsent := s.unsent.drop (n + 1) }
termination_by s.unsent.length
decreasing_by
  have hpos : 0 < s.unsent.length := List.length_pos_iff.mpr _hunsent
  rw [List.length_drop]
  omega

/-- Waits for the next frame and gives it without its length. -/
def receiveFrame (s : Stream σ) : EStateM.Result (Stop TransportError) (Stream σ) Bytes :=
  match _hsplit : Frame.split s.received with
  | .whole body rest => .ok body { s with received := rest }
  | .negative => .error (.failed (.malformedFrame .negativeLength)) s
  | .incomplete =>
    let (delivery, peer) := Peer.read s.peer
    match delivery.toExcept with
    | .error stop => .error stop { s with peer }
    | .ok [] => .error (.failed (.io .unexpectedEof)) { s with peer }
    | .ok (b :: bs) => receiveFrame { s with peer, received := s.received ++ b :: bs }
termination_by Frame.missing s.received
decreasing_by exact Frame.missing_append_lt _ _ (by simp) _hsplit

/-- Says that nothing more will be sent. -/
def shutdown (s : Stream σ) : EStateM.Result (Stop TransportError) (Stream σ) Unit :=
  let (delivery, peer) := Peer.shutdown s.peer
  match delivery.toExcept with
  | .error stop => .error stop { s with peer }
  | .ok () => .ok () { s with peer }

/-- A call whose waits may take so many milliseconds together. -/
def within {α : Type} (milliseconds : Option Nat) (call : Call σ α) : Call σ α := fun s =>
  match call { s with peer := Peer.limit milliseconds s.peer } with
  | .ok a s => .ok a { s with peer := Peer.limit none s.peer }
  | .error stop s => .error stop { s with peer := Peer.limit none s.peer }

end Stream

end ThinClient
