import ThinClient.Proofs.Reading
import ThinClient.Stream

/-!
# Frames in a string of octets

A string of octets is read as frames from its front: frame by frame, until what is left does not
begin with a frame. `Frame.octets` is how a frame is written, and this module says what
`Frame.split` finds in terms of it.

* `split_eq_whole_iff`: it finds a frame if and only if that frame is written in front.
* `split_eq_negative_iff`: it finds a length below zero if and only if one is written in front.
* `exists_frames`: every string of octets is frames and a rest that does not begin with one.
* `Stream.receiveFrame_of_whole` and the lemmas beside it say what waiting for a frame comes to, by
  what `Frame.split` finds in the buffer and what the next read gives; `Stream.flush_of_taken` and
  those beside it say the same of sending, by what the next write gives.
-/

namespace ThinClient

/-- A frame with its length in front. -/
def Frame.octets (body : Bytes) : Bytes :=
  LittleEndian.encode lengthWidth body.length ++ body

namespace Frame

variable {body p q received rest : Bytes}

/-- A length below zero is written in front. -/
def IsNegative (received : Bytes) : Prop :=
  ∃ length : Int32, length < 0 ∧ Word.encode length <+: received

/-- No frame is written in front, or not all of it. -/
def IsFrameless (received : Bytes) : Prop :=
  ∀ body, body.length ≤ greatestCount → ¬ octets body <+: received

theorem decode_length (h : body.length ≤ greatestCount) :
    (Word.decode Int32 (LittleEndian.encode lengthWidth body.length)).toInt = body.length := by
  have hlt : body.length < 2147483648 := by rw [greatestCount] at h; omega
  rw [lengthWidth, ← Reader.encode_ofNat h, Word.decode_encode]
  exact Int32.toInt_ofNat_of_lt hlt

/-- A frame is found, whatever follows it. -/
theorem split_octets_append (h : body.length ≤ greatestCount) (rest : Bytes) :
    split (octets body ++ rest) = .whole body rest := by
  have hdecode := decode_length h
  have hwidth : (LittleEndian.encode lengthWidth body.length).length = lengthWidth :=
    LittleEndian.length_encode _ _
  have htake : (octets body ++ rest).take lengthWidth =
      LittleEndian.encode lengthWidth body.length := by
    rw [octets, List.append_assoc]
    exact List.take_left' hwidth
  have hdrop : (octets body ++ rest).drop lengthWidth = body ++ rest := by
    rw [octets, List.append_assoc]
    exact List.drop_left' hwidth
  have hlong : ¬ (octets body ++ rest).length < lengthWidth := by
    rw [octets, List.length_append, List.length_append, hwidth]
    omega
  have hneg : ¬ (body.length : Int) < 0 := by omega
  have hwhole : ¬ body.length + rest.length < body.length := by omega
  unfold split
  rw [if_neg hlong, htake, hdrop]
  simp [Int32.lt_iff_toInt_lt, hdecode, hneg, hwhole]

theorem split_octets (h : body.length ≤ greatestCount) : split (octets body) = .whole body [] := by
  simpa using split_octets_append h []

/-- A frame in front and what follows it can be told apart. -/
theorem octets_append_inj {rest' : Bytes} (hp : p.length ≤ greatestCount)
    (hq : q.length ≤ greatestCount) (h : octets p ++ rest = octets q ++ rest') :
    p = q ∧ rest = rest' := by
  have hsplit := split_octets_append hp rest
  rw [h, split_octets_append hq rest'] at hsplit
  injection hsplit with hbody hrest
  exact ⟨hbody.symm, hrest.symm⟩

theorem split_eq_whole_iff :
    split received = .whole body rest ↔ received = octets body ++ rest ∧
      body.length ≤ greatestCount := by
  constructor
  · intro h
    unfold split at h
    split at h
    next => cases h
    next hlong =>
      dsimp only at h
      split at h
      next => cases h
      next hneg =>
        split at h
        next => cases h
        next hbody =>
          cases h
          have hlength : Reader.length received =
              .ok (Word.decode Int32 (received.take lengthWidth)).toInt.toNat
                (received.drop lengthWidth) := by
            have hword : Reader.word Int32 received =
                .ok (Word.decode Int32 (received.take lengthWidth))
                  (received.drop lengthWidth) := by
              have htake : Reader.take lengthWidth received =
                  .ok (received.take lengthWidth) (received.drop lengthWidth) := by
                rw [Reader.take, if_neg hlong]
              exact Reader.bind_apply_ok htake
            rw [Reader.length, Reader.bind_apply_ok hword, if_neg hneg]
            rfl
          obtain ⟨front, hfront, hencode, hle⟩ := Reader.Yields.length _ _ _ hlength
          have hbodyLength : ((received.drop lengthWidth).take
              (Word.decode Int32 (received.take lengthWidth)).toInt.toNat).length =
                (Word.decode Int32 (received.take lengthWidth)).toInt.toNat :=
            List.length_take_of_le (Nat.le_of_not_lt hbody)
          rw [octets, hbodyLength, List.append_assoc, List.take_append_drop]
          exact ⟨hencode ▸ hfront, hle⟩
  · rintro ⟨rfl, hle⟩
    exact split_octets_append hle rest

theorem split_eq_negative_iff : split received = .negative ↔ IsNegative received := by
  have hwidth (length : Int32) : (Word.encode length).length = lengthWidth :=
    Word.length_encode length
  constructor
  · intro h
    unfold split at h
    split at h
    next => cases h
    next hlong =>
      dsimp only at h
      split at h
      next hneg =>
        have htake : (received.take lengthWidth).length = Word.width Int32 :=
          List.length_take_of_le (Nat.le_of_not_lt hlong)
        refine ⟨_, hneg, ?_⟩
        rw [Word.encode_decode _ htake]
        exact List.take_prefix _ _
      next => split at h <;> cases h
  · rintro ⟨length, hneg, more, rfl⟩
    have hlong : ¬ (Word.encode length ++ more).length < lengthWidth := by
      rw [List.length_append, hwidth]
      omega
    unfold split
    rw [if_neg hlong, List.take_left' (hwidth length), Word.decode_encode]
    exact if_pos hneg

theorem isFrameless_iff :
    IsFrameless received ↔ ∀ body rest, split received ≠ .whole body rest := by
  constructor
  · intro h body rest hwhole
    obtain ⟨rfl, hle⟩ := split_eq_whole_iff.mp hwhole
    exact h body hle (List.prefix_append _ _)
  · rintro h body hle ⟨rest, rfl⟩
    exact h body rest (split_octets_append hle rest)

/-- More octets are waited for where neither a frame nor a length below zero is in front. -/
theorem split_eq_incomplete_iff :
    split received = .incomplete ↔ IsFrameless received ∧ ¬ IsNegative received := by
  rw [isFrameless_iff, ← split_eq_negative_iff]
  cases split received <;> simp

/-- More octets behind a length below zero change nothing. -/
theorem IsNegative.append (h : IsNegative received) (more : Bytes) :
    IsNegative (received ++ more) := by
  obtain ⟨length, hneg, hfront⟩ := h
  exact ⟨length, hneg, hfront.trans (List.prefix_append _ _)⟩

theorem IsNegative.isFrameless (h : IsNegative received) : IsFrameless received := by
  rw [isFrameless_iff, split_eq_negative_iff.mpr h]
  intro body rest hwhole
  cases hwhole

/-- What does not decide with more octets behind it does not decide without them. -/
theorem split_eq_incomplete_of_append (h : split (p ++ q) = .incomplete) :
    split p = .incomplete := by
  rw [split_eq_incomplete_iff] at h ⊢
  exact ⟨fun body hle hfront => h.1 body hle (hfront.trans (List.prefix_append _ _)),
    fun hnegative => h.2 (hnegative.append q)⟩

/-- A beginning of a frame is not taken for the whole. -/
theorem split_of_append (h : body.length ≤ greatestCount) (hpq : octets body = p ++ q)
    (hq : q ≠ []) : split p = .incomplete := by
  have hwhole := split_octets h
  rw [hpq] at hwhole
  cases hp : split p with
  | whole body' rest =>
    obtain ⟨rfl, hle⟩ := split_eq_whole_iff.mp hp
    rw [List.append_assoc, split_octets_append hle] at hwhole
    injection hwhole with hbody hnil
    exact absurd (List.append_eq_nil_iff.mp hnil).2 hq
  | incomplete => rfl
  | negative =>
    rw [split_eq_negative_iff.mpr ((split_eq_negative_iff.mp hp).append q)] at hwhole
    cases hwhole

theorem length_octets (body : Bytes) : (octets body).length = lengthWidth + body.length := by
  rw [octets, List.length_append, LittleEndian.length_encode]

theorem octets_ne_nil (body : Bytes) : octets body ≠ [] := by
  apply List.ne_nil_of_length_pos
  rw [length_octets, lengthWidth]
  omega

/-- Every string of octets is frames and a rest that does not begin with one. -/
theorem exists_frames (received : Bytes) :
    ∃ (frames : List Bytes) (rest : Bytes), received = frames.flatMap octets ++ rest ∧
      (∀ frame ∈ frames, frame.length ≤ greatestCount) ∧ IsFrameless rest := by
  induction hn : received.length using Nat.strongRecOn generalizing received with
  | ind n ih =>
    by_cases hrest : IsFrameless received
    · exact ⟨[], received, rfl, by simp, hrest⟩
    · obtain ⟨frame, hle, after, rfl⟩ : ∃ frame : Bytes, frame.length ≤ greatestCount ∧
          octets frame <+: received := by simpa [IsFrameless] using hrest
      have hless : after.length < n := by
        have hpos := List.length_pos_iff.mpr (octets_ne_nil frame)
        rw [List.length_append] at hn
        omega
      obtain ⟨frames, rest, rfl, hframes, hrest⟩ := ih _ hless after rfl
      refine ⟨frame :: frames, rest, ?_, List.forall_mem_cons.mpr ⟨hle, hframes⟩, hrest⟩
      rw [List.flatMap_cons, List.append_assoc]

end Frame

namespace Stream

variable {σ : Type} [Peer σ] {s : Stream σ} {peer : σ} {body rest : Bytes}

theorem receiveFrame_of_whole (hsplit : Frame.split s.received = .whole body rest) :
    s.receiveFrame = .ok body { s with received := rest } := by
  rw [receiveFrame]
  split
  next h =>
    rw [hsplit] at h
    cases h
    rfl
  next h => simp [hsplit] at h
  next h => simp [hsplit] at h

theorem receiveFrame_of_negative (hsplit : Frame.split s.received = .negative) :
    s.receiveFrame = .error (.failed (.malformedFrame .negativeLength)) s := by
  rw [receiveFrame]
  split
  next h => simp [hsplit] at h
  next => rfl
  next h => simp [hsplit] at h

theorem receiveFrame_of_octets {b : UInt8} {bs : Bytes}
    (hsplit : Frame.split s.received = .incomplete)
    (hread : Peer.read s.peer = (.done (b :: bs), peer)) :
    s.receiveFrame = receiveFrame { s with peer, received := s.received ++ b :: bs } := by
  rw [receiveFrame]
  split
  next h => simp [hsplit] at h
  next h => simp [hsplit] at h
  next => simp only [hread, Delivery.toExcept]

theorem receiveFrame_of_end (hsplit : Frame.split s.received = .incomplete)
    (hread : Peer.read s.peer = (.done [], peer)) :
    s.receiveFrame = .error (.failed (.io .unexpectedEof)) { s with peer } := by
  rw [receiveFrame]
  split
  next h => simp [hsplit] at h
  next h => simp [hsplit] at h
  next => simp only [hread, Delivery.toExcept]

theorem receiveFrame_of_stop {delivery : Delivery Bytes} {stop : Stop TransportError}
    (hsplit : Frame.split s.received = .incomplete) (hread : Peer.read s.peer = (delivery, peer))
    (hstop : delivery.toExcept = .error stop) : s.receiveFrame = .error stop { s with peer } := by
  rw [receiveFrame]
  split
  next h => simp [hsplit] at h
  next h => simp [hsplit] at h
  next => simp only [hread, hstop]

theorem flush_nil (h : s.unsent = []) : s.flush = .ok () s := by
  rw [flush, dif_pos h]

theorem flush_of_taken {n : Nat} (hunsent : s.unsent ≠ [])
    (hwrite : Peer.write s.unsent s.peer = (.done (n + 1), peer)) :
    s.flush = flush { s with peer, unsent := s.unsent.drop (n + 1) } := by
  rw [flush, dif_neg hunsent]
  simp only [hwrite, Delivery.toExcept]

theorem flush_of_zero (hunsent : s.unsent ≠ [])
    (hwrite : Peer.write s.unsent s.peer = (.done 0, peer)) :
    s.flush = .error (.failed (.io .writeZero)) { s with peer } := by
  rw [flush, dif_neg hunsent]
  simp only [hwrite, Delivery.toExcept]

theorem flush_of_stop {delivery : Delivery Nat} {stop : Stop TransportError}
    (hunsent : s.unsent ≠ []) (hwrite : Peer.write s.unsent s.peer = (delivery, peer))
    (hstop : delivery.toExcept = .error stop) : s.flush = .error stop { s with peer } := by
  rw [flush, dif_neg hunsent]
  simp only [hwrite, hstop]

end Stream

end ThinClient
