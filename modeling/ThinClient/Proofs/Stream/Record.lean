import ThinClient.Proofs.Stream.Frames

/-!
# What is done with the other end of a stream

What a client does with the other end of its stream is a sequence of waits. This module puts them on
record, so that a call can be told by what was accepted and what arrived during it, over any other
end.

* `Dealing` is one thing that is done with the other end and how it ends, `Recorded` the other end
  with all that has been done with it.
* `Flushes` is what `Stream.flush` comes to: what was accepted, and what is left to be sent, are
  what was unsent before. It fails only if something is left.
* `Hears` is what `Stream.receiveFrame` comes to: what had been received, and what has arrived
  since, are the frame it gives and what is received then. It fails only if no frame stands in
  front.
-/

namespace ThinClient

/-- One thing that is done with the other end of a byte stream, and how it ends. -/
inductive Dealing where
  | limit (milliseconds : Option Nat)
  | read (delivery : Delivery Bytes)
  | write (octets : Bytes) (delivery : Delivery Nat)
  | shutdown (delivery : Delivery Unit)

namespace Dealing

/-- The octets that are accepted. -/
def accepted : Dealing → Bytes
  | write octets (.done n) => octets.take n
  | _ => []

/-- The octets that arrive. -/
def delivered : Dealing → Bytes
  | read (.done octets) => octets
  | _ => []

/-- Whether octets are waited for in one direction or the other. -/
def isWait : Dealing → Bool
  | read _ | write .. => true
  | limit _ | shutdown _ => false

/-- Whether the caller gives up meanwhile. -/
def isGivenUp : Dealing → Bool
  | read .cancelled | write _ .cancelled | shutdown .cancelled => true
  | _ => false

end Dealing

/-- The octets that are accepted in a sequence of dealings. -/
def acceptedIn (dealings : List Dealing) : Bytes :=
  dealings.flatMap Dealing.accepted

/-- The octets that arrive in a sequence of dealings. -/
def deliveredIn (dealings : List Dealing) : Bytes :=
  dealings.flatMap Dealing.delivered

@[simp] theorem acceptedIn_nil : acceptedIn [] = [] := rfl

@[simp] theorem acceptedIn_cons (d : Dealing) (dealings : List Dealing) :
    acceptedIn (d :: dealings) = d.accepted ++ acceptedIn dealings :=
  List.flatMap_cons

@[simp] theorem acceptedIn_append (first second : List Dealing) :
    acceptedIn (first ++ second) = acceptedIn first ++ acceptedIn second :=
  List.flatMap_append

@[simp] theorem deliveredIn_nil : deliveredIn [] = [] := rfl

@[simp] theorem deliveredIn_cons (d : Dealing) (dealings : List Dealing) :
    deliveredIn (d :: dealings) = d.delivered ++ deliveredIn dealings :=
  List.flatMap_cons

@[simp] theorem deliveredIn_append (first second : List Dealing) :
    deliveredIn (first ++ second) = deliveredIn first ++ deliveredIn second :=
  List.flatMap_append

/-- What was accepted up to some moment comes in front of what was accepted later. -/
theorem acceptedIn_mono {moment dealings : List Dealing} (h : moment <+: dealings) :
    acceptedIn moment <+: acceptedIn dealings := by
  obtain ⟨later, rfl⟩ := h
  rw [acceptedIn_append]
  exact List.prefix_append _ _

/-- If a call was given up, the caller gave up one of the waits. -/
def GivenUpIn (waits : List Dealing) (stop : Stop TransportError) : Prop :=
  stop = .cancelled → ∃ d ∈ waits, d.isGivenUp = true

theorem GivenUpIn.mono {waits more : List Dealing} {stop : Stop TransportError}
    (h : GivenUpIn waits stop) (hsubset : waits ⊆ more) : GivenUpIn more stop := by
  intro hcancelled
  obtain ⟨d, hd, hgiven⟩ := h hcancelled
  exact ⟨d, hsubset hd, hgiven⟩

theorem GivenUpIn.of_failed {waits : List Dealing} (e : TransportError) :
    GivenUpIn waits (.failed e) := by
  intro hcancelled
  cases hcancelled

/-- The other end of a byte stream, and all that has been done with it. -/
structure Recorded (σ : Type) where
  peer : σ
  dealings : List Dealing := []

instance {σ : Type} [Peer σ] : Peer (Recorded σ) where
  limit milliseconds r :=
    { peer := Peer.limit milliseconds r.peer, dealings := r.dealings ++ [.limit milliseconds] }
  read r :=
    let (delivery, peer) := Peer.read r.peer
    (delivery, { peer, dealings := r.dealings ++ [.read delivery] })
  write octets r :=
    let (delivery, peer) := Peer.write octets r.peer
    (delivery, { peer, dealings := r.dealings ++ [.write octets delivery] })
  shutdown r :=
    let (delivery, peer) := Peer.shutdown r.peer
    (delivery, { peer, dealings := r.dealings ++ [.shutdown delivery] })

namespace Recorded

variable {σ : Type} [Peer σ] {r after : Recorded σ}

theorem dealings_limit (milliseconds : Option Nat) (r : Recorded σ) :
    (Peer.limit milliseconds r).dealings = r.dealings ++ [.limit milliseconds] := rfl

theorem read_eq {delivery : Delivery Bytes} {peer : σ} (h : Peer.read r.peer = (delivery, peer)) :
    Peer.read r = (delivery, { peer, dealings := r.dealings ++ [.read delivery] }) := by
  simp only [Peer.read, h]

theorem write_eq {octets : Bytes} {delivery : Delivery Nat} {peer : σ}
    (h : Peer.write octets r.peer = (delivery, peer)) :
    Peer.write octets r =
      (delivery, { peer, dealings := r.dealings ++ [.write octets delivery] }) := by
  simp only [Peer.write, h]

theorem dealings_read {delivery : Delivery Bytes} (h : Peer.read r = (delivery, after)) :
    after.dealings = r.dealings ++ [.read delivery] := by
  cases h
  rfl

theorem dealings_write {octets : Bytes} {delivery : Delivery Nat}
    (h : Peer.write octets r = (delivery, after)) :
    after.dealings = r.dealings ++ [.write octets delivery] := by
  cases h
  rfl

end Recorded

theorem Delivery.toExcept_eq_ok {α : Type} {delivery : Delivery α} {a : α}
    (h : delivery.toExcept = .ok a) : delivery = .done a := by
  cases delivery <;> cases h
  rfl

/-- What ends a write has had nothing accepted. -/
theorem Dealing.write_of_error {delivery : Delivery Nat} {stop : Stop TransportError}
    (h : delivery.toExcept = .error stop) (octets : Bytes) :
    (write octets delivery).accepted = [] ∧ GivenUpIn [write octets delivery] stop := by
  cases delivery <;> cases h <;> simp [accepted, isGivenUp, GivenUpIn]

/-- What ends a read has brought nothing. -/
theorem Dealing.read_of_error {delivery : Delivery Bytes} {stop : Stop TransportError}
    (h : delivery.toExcept = .error stop) :
    (read delivery).delivered = [] ∧ GivenUpIn [read delivery] stop := by
  cases delivery <;> cases h <;> simp [delivered, isGivenUp, GivenUpIn]

/-- The stream after a call, however it ends. -/
def Stream.after {σ ε α : Type} (s : Stream σ) (call : EStateM ε (Stream σ) α) : Stream σ :=
  match call s with
  | .ok _ s | .error _ s => s

namespace Stream

variable {σ : Type} {s after : Stream (Recorded σ)}

/-- Some waits have been gone through, and nothing else has been done with the other end. -/
structure Waited (s : Stream (Recorded σ)) (waits : List Dealing) (after : Stream (Recorded σ)) :
    Prop where
  dealings_eq : after.peer.dealings = s.peer.dealings ++ waits
  isWait : ∀ d ∈ waits, d.isWait = true

theorem Waited.refl (s : Stream (Recorded σ)) : Waited s [] s :=
  ⟨(List.append_nil _).symm, by simp⟩

theorem Waited.trans {middle : Stream (Recorded σ)} {first second : List Dealing}
    (h : Waited s first middle) (h' : Waited middle second after) :
    Waited s (first ++ second) after where
  dealings_eq := by rw [h'.dealings_eq, h.dealings_eq, List.append_assoc]
  isWait := List.forall_mem_append.mpr ⟨h.isWait, h'.isWait⟩

theorem Waited.cons {middle : Stream (Recorded σ)} {d : Dealing} {waits : List Dealing}
    (hfirst : middle.peer.dealings = s.peer.dealings ++ [d]) (hd : d.isWait = true)
    (h : Waited middle waits after) : Waited s (d :: waits) after :=
  trans ⟨hfirst, List.forall_mem_singleton.mpr hd⟩ h

/-! ## Sending -/

/-- What `flush` comes to. -/
inductive Flushes (s : Stream (Recorded σ)) :
    EStateM.Result (Stop TransportError) (Stream (Recorded σ)) Unit → Prop
  | sent (after : Stream (Recorded σ)) (waits : List Dealing) (hwaited : Waited s waits after)
      (haccepted : acceptedIn waits = s.unsent) (hunsent : after.unsent = [])
      (hdelivered : deliveredIn waits = []) (hreceived : after.received = s.received) :
      Flushes s (.ok () after)
  /-- Something is left to be sent. -/
  | stopped (stop : Stop TransportError) (after : Stream (Recorded σ)) (waits : List Dealing)
      (hwaited : Waited s waits after) (haccepted : acceptedIn waits ++ after.unsent = s.unsent)
      (hunsent : after.unsent ≠ []) (hdelivered : deliveredIn waits = [])
      (hreceived : after.received = s.received)
      (hstop : GivenUpIn waits stop) : Flushes s (.error stop after)

/-- A piece that is accepted comes in front of what is accepted later. -/
theorem Flushes.cons {middle : Stream (Recorded σ)} {d : Dealing}
    {result : EStateM.Result (Stop TransportError) (Stream (Recorded σ)) Unit}
    (h : Flushes middle result) (hfirst : middle.peer.dealings = s.peer.dealings ++ [d])
    (hd : d.isWait = true) (hpiece : d.accepted ++ middle.unsent = s.unsent)
    (hnothing : d.delivered = []) (hsame : middle.received = s.received) : Flushes s result := by
  cases h with
  | sent after waits hwaited haccepted hunsent hdelivered hreceived =>
    refine .sent after _ (.cons hfirst hd hwaited) ?_ hunsent ?_ (hreceived.trans hsame)
    · rw [acceptedIn_cons, haccepted, hpiece]
    · rw [deliveredIn_cons, hnothing, hdelivered]
      rfl
  | stopped stop after waits hwaited haccepted hunsent hdelivered hreceived hstop =>
    refine .stopped stop after _ (.cons hfirst hd hwaited) ?_ hunsent ?_ (hreceived.trans hsame)
      (hstop.mono (List.subset_cons_self _ _))
    · rw [acceptedIn_cons, List.append_assoc, haccepted, hpiece]
    · rw [deliveredIn_cons, hnothing, hdelivered]
      rfl

theorem flush_flushes [Peer σ] (s : Stream (Recorded σ)) : Flushes s s.flush := by
  fun_induction flush s with
  | case1 s hunsent => exact .sent s [] (.refl s) hunsent.symm hunsent rfl rfl
  | case2 s hunsent delivery peer hwrite stop hstop =>
    obtain ⟨hnone, hgiven⟩ := Dealing.write_of_error hstop s.unsent
    exact .stopped stop _ [.write s.unsent delivery]
      (.cons (Recorded.dealings_write hwrite) rfl (.refl _)) (by simp [hnone]) hunsent rfl rfl
      hgiven
  | case3 s hunsent delivery peer hwrite hdone =>
    cases Delivery.toExcept_eq_ok hdone
    exact .stopped _ _ [.write s.unsent (.done 0)]
      (.cons (Recorded.dealings_write hwrite) rfl (.refl _)) (by simp [Dealing.accepted]) hunsent
      rfl rfl (.of_failed _)
  | case4 s hunsent delivery peer hwrite n hdone ih =>
    cases Delivery.toExcept_eq_ok hdone
    exact ih.cons (Recorded.dealings_write hwrite) rfl (List.take_append_drop _ _) rfl rfl

/-! ## Receiving -/

/-- What `receiveFrame` comes to. -/
inductive Hears (s : Stream (Recorded σ)) :
    EStateM.Result (Stop TransportError) (Stream (Recorded σ)) Bytes → Prop
  | frame (frame : Bytes) (after : Stream (Recorded σ)) (waits : List Dealing)
      (hwaited : Waited s waits after) (hle : frame.length ≤ greatestCount)
      (hdelivered : s.received ++ deliveredIn waits = Frame.octets frame ++ after.received)
      (haccepted : acceptedIn waits = []) (hunsent : after.unsent = s.unsent) :
      Hears s (.ok frame after)
  /-- No frame stands in front of what has been received. -/
  | stopped (stop : Stop TransportError) (after : Stream (Recorded σ)) (waits : List Dealing)
      (hwaited : Waited s waits after)
      (hdelivered : s.received ++ deliveredIn waits = after.received)
      (hframeless : Frame.IsFrameless after.received) (haccepted : acceptedIn waits = [])
      (hunsent : after.unsent = s.unsent)
      (hstop : GivenUpIn waits stop) : Hears s (.error stop after)

/-- A piece that arrives stands in front of what arrives later. -/
theorem Hears.cons {middle : Stream (Recorded σ)} {d : Dealing}
    {result : EStateM.Result (Stop TransportError) (Stream (Recorded σ)) Bytes}
    (h : Hears middle result) (hfirst : middle.peer.dealings = s.peer.dealings ++ [d])
    (hd : d.isWait = true) (hpiece : middle.received = s.received ++ d.delivered)
    (hnothing : d.accepted = []) (hsame : middle.unsent = s.unsent) : Hears s result := by
  have hmore (waits : List Dealing) : s.received ++ deliveredIn (d :: waits) =
      middle.received ++ deliveredIn waits := by
    rw [deliveredIn_cons, hpiece, List.append_assoc]
  have hnone {waits : List Dealing} (h : acceptedIn waits = []) : acceptedIn (d :: waits) = [] := by
    rw [acceptedIn_cons, hnothing, h]
    rfl
  cases h with
  | frame frame after waits hwaited hle hdelivered haccepted hunsent =>
    exact .frame frame after _ (.cons hfirst hd hwaited) hle ((hmore waits).trans hdelivered)
      (hnone haccepted) (hunsent.trans hsame)
  | stopped stop after waits hwaited hdelivered hframeless haccepted hunsent hstop =>
    exact .stopped stop after _ (.cons hfirst hd hwaited) ((hmore waits).trans hdelivered)
      hframeless (hnone haccepted) (hunsent.trans hsame) (hstop.mono (List.subset_cons_self _ _))

theorem receiveFrame_hears [Peer σ] (s : Stream (Recorded σ)) : Hears s s.receiveFrame := by
  fun_induction receiveFrame s with
  | case1 s body rest hsplit =>
    obtain ⟨hreceived, hle⟩ := Frame.split_eq_whole_iff.mp hsplit
    exact .frame body _ [] ⟨(List.append_nil _).symm, by simp⟩ hle (by simp [hreceived]) rfl rfl
  | case2 s hsplit =>
    have hnegative := Frame.split_eq_negative_iff.mp hsplit
    exact .stopped _ s [] (.refl s) (by simp) hnegative.isFrameless rfl rfl (.of_failed _)
  | case3 s hsplit delivery peer hread stop hstop =>
    obtain ⟨hnone, hgiven⟩ := Dealing.read_of_error hstop
    obtain ⟨hframeless, -⟩ := Frame.split_eq_incomplete_iff.mp hsplit
    exact .stopped stop _ [.read delivery] (.cons (Recorded.dealings_read hread) rfl (.refl _))
      (by simp [hnone]) hframeless rfl rfl hgiven
  | case4 s hsplit delivery peer hread hdone =>
    cases Delivery.toExcept_eq_ok hdone
    obtain ⟨hframeless, -⟩ := Frame.split_eq_incomplete_iff.mp hsplit
    exact .stopped _ _ [.read (.done [])] (.cons (Recorded.dealings_read hread) rfl (.refl _))
      (by simp [Dealing.delivered]) hframeless rfl rfl (.of_failed _)
  | case5 s hsplit delivery peer hread b bs hdone ih =>
    cases Delivery.toExcept_eq_ok hdone
    exact ih.cons (Recorded.dealings_read hread) rfl rfl rfl rfl

end Stream

end ThinClient
