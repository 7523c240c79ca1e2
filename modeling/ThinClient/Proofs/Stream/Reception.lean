import ThinClient.Proofs.Stream.Frames

/-!
# Frames are received as they were sent

Octets arrive in pieces that have nothing to do with frames, and a caller can give up waiting at any
of them. Neither changes which frames are received.

* `Feed` is the other end of a byte stream that gives chosen pieces, keeps callers waiting in
  between until they give up, and ends or fails. `Stream.coming` is all that is still to come from
  it, read already or not.
* `Stream.receiveFrame_feed` is one call: it gives the frame in front of what is coming, the reason
  why there is none, or it is given up; what it does not give is still coming.
* `receiveFrames_feed`: **calls give the frames that the octets were written as, in order, and then
  why there is no other**, however the octets were cut and whichever calls were given up.
-/

namespace ThinClient

/-! ## Octets in pieces -/

/-- How a wait for octets ends before the end of the stream. -/
inductive Wait where
  | octets (first : UInt8) (more : Bytes)
  | cancelled

namespace Wait

/-- The octets that arrive. -/
def arrival : Wait → Bytes
  | octets first more => first :: more
  | cancelled => []

/-- Whether the caller gives up. -/
def isCancelled : Wait → Bool
  | octets .. => false
  | cancelled => true

end Wait

/-- The other end of a byte stream that does nothing but send, in pieces of which none is empty. -/
structure Feed where
  /-- How the waits of callers end, in order. -/
  waits : List Wait
  /-- What every later wait fails with, if the stream does not end. -/
  failure : Option IoError := none

namespace Feed

/-- The octets that will arrive. -/
def octets (f : Feed) : Bytes :=
  f.waits.flatMap Wait.arrival

/-- How many waits callers will give up. -/
def cancellations (f : Feed) : Nat :=
  f.waits.countP Wait.isCancelled

/-- What a call fails with that waits after the last piece. -/
def lastCause (f : Feed) : IoError :=
  f.failure.getD .unexpectedEof

theorem lastCause_congr {f g : Feed} (h : f.failure = g.failure) : f.lastCause = g.lastCause := by
  rw [lastCause, lastCause, h]

instance : Peer Feed where
  limit _ f := f
  read f :=
    match f.waits, f.failure with
    | .octets first more :: waits, _ => (.done (first :: more), { f with waits })
    | .cancelled :: waits, _ => (.cancelled, { f with waits })
    | [], none => (.done [], f)
    | [], some cause => (.failed cause, f)
  write octets f := (.done octets.length, f)
  shutdown f := (.done (), f)

end Feed

namespace Stream

variable {s after : Stream Feed} {rest : Bytes}

/-- The octets of a stream that have not been given as part of a frame. -/
def coming (s : Stream Feed) : Bytes :=
  s.received ++ s.peer.octets

/-! ## One call -/

/-- Why there is no frame in front of octets that do not begin with one, where the stream ends with
a cause. -/
structure Explains (cause : IoError) (rest : Bytes) (stop : Stop TransportError) : Prop where
  of_negative : Frame.IsNegative rest → stop = .failed (.malformedFrame .negativeLength)
  of_not_negative : ¬ Frame.IsNegative rest → stop = .failed (.io cause)

theorem exists_explains (cause : IoError) (rest : Bytes) : ∃ stop, Explains cause rest stop := by
  by_cases h : Frame.IsNegative rest
  · exact ⟨_, fun _ => rfl, fun h' => absurd h h'⟩
  · exact ⟨_, fun h' => absurd h' h, fun _ => rfl⟩

theorem Explains.unique {cause : IoError} {stop stop' : Stop TransportError}
    (h : Explains cause rest stop) (h' : Explains cause rest stop') : stop = stop' := by
  by_cases hnegative : Frame.IsNegative rest
  · rw [h.of_negative hnegative, h'.of_negative hnegative]
  · rw [h.of_not_negative hnegative, h'.of_not_negative hnegative]

/-- What a call for a frame comes to. -/
inductive Receives (s : Stream Feed) :
    EStateM.Result (Stop TransportError) (Stream Feed) Bytes → Prop where
  | frame (frame : Bytes) (after : Stream Feed) (hle : frame.length ≤ greatestCount)
      (hcoming : s.coming = Frame.octets frame ++ after.coming)
      (hcancellations : after.peer.cancellations = s.peer.cancellations)
      (hfailure : after.peer.failure = s.peer.failure) : Receives s (.ok frame after)
  /-- There is no frame, and the call says why. -/
  | stopped (stop : Stop TransportError) (after : Stream Feed)
      (hframeless : Frame.IsFrameless s.coming)
      (hstop : Explains s.peer.lastCause s.coming stop)
      (hcoming : after.coming = s.coming)
      (hcancellations : after.peer.cancellations = s.peer.cancellations)
      (hfailure : after.peer.failure = s.peer.failure) : Receives s (.error stop after)
  | cancelled (after : Stream Feed) (hcoming : after.coming = s.coming)
      (hcancellations : after.peer.cancellations + 1 = s.peer.cancellations)
      (hfailure : after.peer.failure = s.peer.failure) : Receives s (.error .cancelled after)

/-- A call finds the same wherever the octets are. -/
theorem Receives.congr {t : Stream Feed}
    {result : EStateM.Result (Stop TransportError) (Stream Feed) Bytes} (h : Receives t result)
    (hcoming : t.coming = s.coming) (hcancellations : t.peer.cancellations = s.peer.cancellations)
    (hfailure : t.peer.failure = s.peer.failure) : Receives s result := by
  cases h with
  | frame frame after hle h₁ h₂ h₃ =>
    exact .frame frame after hle (hcoming ▸ h₁) (h₂.trans hcancellations) (h₃.trans hfailure)
  | stopped stop after hframeless hstop h₁ h₂ h₃ =>
    rw [hcoming] at hframeless hstop
    rw [Feed.lastCause_congr hfailure] at hstop
    exact .stopped stop after hframeless hstop (h₁.trans hcoming) (h₂.trans hcancellations)
      (h₃.trans hfailure)
  | cancelled after h₁ h₂ h₃ =>
    exact .cancelled after (h₁.trans hcoming) (h₂.trans hcancellations) (h₃.trans hfailure)

theorem receives_of_whole {frame : Bytes} (hsplit : Frame.split s.received = .whole frame rest) :
    Receives s s.receiveFrame := by
  obtain ⟨hreceived, hle⟩ := Frame.split_eq_whole_iff.mp hsplit
  rw [receiveFrame_of_whole hsplit]
  refine .frame frame _ hle ?_ rfl rfl
  rw [coming, hreceived, List.append_assoc]
  rfl

theorem receives_of_negative (hsplit : Frame.split s.received = .negative) :
    Receives s s.receiveFrame := by
  have hnegative := (Frame.split_eq_negative_iff.mp hsplit).append s.peer.octets
  rw [receiveFrame_of_negative hsplit]
  exact .stopped _ s hnegative.isFrameless ⟨fun _ => rfl, fun h => absurd hnegative h⟩ rfl rfl rfl

/-- At the end of the stream nothing is coming but the beginning of a frame. -/
theorem receives_of_ended (hsplit : Frame.split s.received = .incomplete)
    (hwaits : s.peer.waits = []) : Receives s s.receiveFrame := by
  have hcoming : s.coming = s.received := by simp [coming, Feed.octets, hwaits]
  obtain ⟨hframeless, hnegative⟩ := Frame.split_eq_incomplete_iff.mp hsplit
  rw [← hcoming] at hframeless hnegative
  have hreceive : s.receiveFrame = .error (.failed (.io s.peer.lastCause)) s := by
    cases hfailure : s.peer.failure with
    | none =>
      have hread : Peer.read s.peer = (.done [], s.peer) := by
        simp only [Peer.read, hwaits, hfailure]
      rw [receiveFrame_of_end hsplit hread, Feed.lastCause, hfailure]
      rfl
    | some cause =>
      have hread : Peer.read s.peer = (.failed cause, s.peer) := by
        simp only [Peer.read, hwaits, hfailure]
      rw [receiveFrame_of_stop hsplit hread rfl, Feed.lastCause, hfailure]
      rfl
  rw [hreceive]
  exact .stopped _ s hframeless ⟨fun h => absurd h hnegative, fun _ => rfl⟩ rfl rfl rfl

/-- One call for a frame. The induction is on the waits that are still to come: a piece that does
not complete a frame leaves a call that waits for the next one. -/
theorem receiveFrame_feed (s : Stream Feed) : Receives s s.receiveFrame := by
  obtain ⟨⟨waits, failure⟩, received, unsent⟩ := s
  induction waits generalizing received with
  | nil =>
    cases hsplit : Frame.split received with
    | whole frame rest => exact receives_of_whole hsplit
    | negative => exact receives_of_negative hsplit
    | incomplete => exact receives_of_ended hsplit rfl
  | cons wait waits ih =>
    cases hsplit : Frame.split received with
    | whole frame rest => exact receives_of_whole hsplit
    | negative => exact receives_of_negative hsplit
    | incomplete =>
      cases wait with
      | cancelled =>
        have hread : Peer.read (⟨.cancelled :: waits, failure⟩ : Feed) =
            (.cancelled, ⟨waits, failure⟩) := rfl
        rw [receiveFrame_of_stop hsplit hread rfl]
        exact .cancelled _ rfl (List.countP_cons_of_pos rfl).symm rfl
      | octets first more =>
        have hcancellations : Feed.cancellations ⟨.octets first more :: waits, failure⟩ =
            Feed.cancellations ⟨waits, failure⟩ := List.countP_cons_of_neg Bool.false_ne_true
        have hread : Peer.read (⟨.octets first more :: waits, failure⟩ : Feed) =
            (.done (first :: more), ⟨waits, failure⟩) := rfl
        have hlater := ih (received ++ first :: more)
        rw [receiveFrame_of_octets hsplit hread]
        exact hlater.congr (List.append_assoc received (first :: more) _) hcancellations.symm rfl

/-! ## Calls one after the other -/

/-- What calls for frames give, and the stream after them. -/
def receiveFrames {σ : Type} [Peer σ] (s : Stream σ) :
    (calls : Nat) → List (Except (Stop TransportError) Bytes) × Stream σ
  | 0 => ([], s)
  | calls + 1 =>
    match s.receiveFrame with
    | .ok frame s =>
      let (results, s) := receiveFrames s calls
      (.ok frame :: results, s)
    | .error stop s =>
      let (results, s) := receiveFrames s calls
      (.error stop :: results, s)

/-- Whether a call was given up. -/
def isGivenUp : Except (Stop TransportError) Bytes → Bool
  | .error .cancelled => true
  | _ => false

/-- What the calls gave that were not given up. -/
def answers (results : List (Except (Stop TransportError) Bytes)) :
    List (Except (Stop TransportError) Bytes) :=
  results.filter (!isGivenUp ·)

theorem receiveFrames_of_ok {frame : Bytes} (h : s.receiveFrame = .ok frame after) (calls : Nat) :
    s.receiveFrames (calls + 1) =
      (.ok frame :: (after.receiveFrames calls).1, (after.receiveFrames calls).2) := by
  rw [receiveFrames, h]

theorem receiveFrames_of_error {stop : Stop TransportError} (h : s.receiveFrame = .error stop after)
    (calls : Nat) : s.receiveFrames (calls + 1) =
      (.error stop :: (after.receiveFrames calls).1, (after.receiveFrames calls).2) := by
  rw [receiveFrames, h]

theorem Explains.isGivenUp_eq {cause : IoError} {stop : Stop TransportError}
    (h : Explains cause rest stop) : isGivenUp (.error stop) = false := by
  by_cases hnegative : Frame.IsNegative rest
  · rw [h.of_negative hnegative]
    rfl
  · rw [h.of_not_negative hnegative]
    rfl

/-- What calls come to, where `frames` and then `rest` are coming, and `stop` says why no frame is
in front of `rest`. -/
structure Delivers (s : Stream Feed) (frames : List Bytes) (rest : Bytes)
    (stop : Stop TransportError) (results : List (Except (Stop TransportError) Bytes))
    (after : Stream Feed) : Prop where
  /-- Only calls that the other end kept waiting were given up. -/
  cancellations_eq : results.countP isGivenUp + after.peer.cancellations = s.peer.cancellations
  answers_eq : answers results = (frames.take (answers results).length).map .ok ++
    .replicate ((answers results).length - frames.length) (.error stop)
  coming_eq : after.coming = (frames.drop (answers results).length).flatMap Frame.octets ++ rest

namespace Delivers

variable {middle : Stream Feed} {frames : List Bytes} {stop : Stop TransportError}
  {results : List (Except (Stop TransportError) Bytes)}

theorem nil (h : s.coming = frames.flatMap Frame.octets ++ rest) :
    Delivers s frames rest stop [] s :=
  ⟨Nat.zero_add _, by simp [answers], h⟩

theorem frame {frame : Bytes} (hcancellations : middle.peer.cancellations = s.peer.cancellations)
    (h : Delivers middle frames rest stop results after) :
    Delivers s (frame :: frames) rest stop (.ok frame :: results) after := by
  have hanswers : answers (.ok frame :: results) = .ok frame :: answers results := rfl
  refine ⟨?_, ?_, ?_⟩
  · rw [List.countP_cons_of_neg (by simp [isGivenUp]), h.cancellations_eq, hcancellations]
  · rw [hanswers, List.length_cons, List.length_cons, Nat.add_sub_add_right, List.take_succ_cons,
      List.map_cons, List.cons_append, ← h.answers_eq]
  · rw [hanswers, List.length_cons, List.drop_succ_cons, h.coming_eq]

theorem stopped (hstop : isGivenUp (.error stop) = false)
    (hcancellations : middle.peer.cancellations = s.peer.cancellations)
    (h : Delivers middle [] rest stop results after) :
    Delivers s [] rest stop (.error stop :: results) after := by
  have hanswers : answers (.error stop :: results) = .error stop :: answers results := by
    simp [answers, hstop]
  have hrest := h.answers_eq
  rw [List.take_nil, List.map_nil, List.nil_append, List.length_nil, Nat.sub_zero] at hrest
  refine ⟨?_, ?_, ?_⟩
  · rw [List.countP_cons_of_neg (by simp [hstop]), h.cancellations_eq, hcancellations]
  · rw [hanswers, List.take_nil, List.map_nil, List.nil_append, List.length_nil, Nat.sub_zero,
      List.length_cons, List.replicate_succ, ← hrest]
  · rw [h.coming_eq, List.drop_nil, List.drop_nil]

theorem cancelled (hcancellations : middle.peer.cancellations + 1 = s.peer.cancellations)
    (h : Delivers middle frames rest stop results after) :
    Delivers s frames rest stop (.error .cancelled :: results) after := by
  refine ⟨?_, h.answers_eq, h.coming_eq⟩
  rw [List.countP_cons_of_pos rfl, ← hcancellations, ← h.cancellations_eq]
  omega

end Delivers

/-- Calls one after the other, by induction on their number. -/
theorem receiveFrames_delivers {frames : List Bytes} {stop : Stop TransportError} (calls : Nat)
    (hcoming : s.coming = frames.flatMap Frame.octets ++ rest)
    (hframes : ∀ frame ∈ frames, frame.length ≤ greatestCount) (hrest : Frame.IsFrameless rest)
    (hstop : Explains s.peer.lastCause rest stop) :
    Delivers s frames rest stop (s.receiveFrames calls).1 (s.receiveFrames calls).2 := by
  induction calls generalizing s frames with
  | zero => exact .nil hcoming
  | succ calls ih =>
    have hcall := receiveFrame_feed s
    generalize hreceive : s.receiveFrame = result at hcall
    cases hcall with
    | frame frame after hle hfront hcancellations hfailure =>
      rw [receiveFrames_of_ok hreceive]
      rw [← Feed.lastCause_congr hfailure] at hstop
      cases frames with
      | nil => exact absurd ⟨after.coming, hfront.symm.trans hcoming⟩ (hrest frame hle)
      | cons first frames =>
        obtain ⟨hfirst, hlater⟩ := List.forall_mem_cons.mp hframes
        rw [hfront, List.flatMap_cons, List.append_assoc] at hcoming
        obtain ⟨rfl, hafter⟩ := Frame.octets_append_inj hle hfirst hcoming
        exact (ih hafter hlater hstop).frame hcancellations
    | stopped found after hframeless hfound hsame hcancellations hfailure =>
      rw [receiveFrames_of_error hreceive]
      cases frames with
      | nil =>
        rw [hcoming] at hfound
        obtain rfl := hstop.unique hfound
        rw [← Feed.lastCause_congr hfailure] at hstop
        exact (ih (hsame.trans hcoming) hframes hstop).stopped hstop.isGivenUp_eq hcancellations
      | cons first frames =>
        rw [hcoming, List.flatMap_cons, List.append_assoc] at hframeless
        exact absurd (List.prefix_append _ _) (hframeless first (hframes first List.mem_cons_self))
    | cancelled after hsame hcancellations hfailure =>
      rw [receiveFrames_of_error hreceive]
      rw [← Feed.lastCause_congr hfailure] at hstop
      exact (ih (hsame.trans hcoming) hframes hstop).cancelled hcancellations

theorem length_receiveFrames {σ : Type} [Peer σ] (s : Stream σ) (calls : Nat) :
    (s.receiveFrames calls).1.length = calls := by
  induction calls generalizing s with
  | zero => rfl
  | succ calls ih =>
    rw [receiveFrames]
    split <;> simp [ih]

/-- **Frames are received as they were sent.** Whatever is coming is frames and a rest that does not
begin with one. However it is cut into pieces, calls that are not given up give the frames in
order, each once, and from then on why there is no other: a length below zero, or the end or failure
of the stream. What they have not given is still coming, and only calls that the other end kept
waiting are given up. A frame that has been read already is given by the next call, over any stream,
without a word to the other end. -/
theorem receiveFrames_feed :
    (∀ s : Stream Feed, ∃ (frames : List Bytes) (rest : Bytes) (stop : Stop TransportError),
      s.coming = frames.flatMap Frame.octets ++ rest ∧
      (∀ frame ∈ frames, frame.length ≤ greatestCount) ∧ Frame.IsFrameless rest ∧
      (Frame.IsNegative rest → stop = .failed (.malformedFrame .negativeLength)) ∧
      (¬ Frame.IsNegative rest →
        stop = .failed (.io (s.peer.failure.getD .unexpectedEof))) ∧
      ∀ calls,
        let results := (s.receiveFrames calls).1
        let after := (s.receiveFrames calls).2
        let n := (answers results).length
        results.length = calls ∧
          results.countP isGivenUp + after.peer.cancellations = s.peer.cancellations ∧
          answers results =
            (frames.take n).map .ok ++ .replicate (n - frames.length) (.error stop) ∧
          after.coming = (frames.drop n).flatMap Frame.octets ++ rest) ∧
      ∀ (σ : Type) [Peer σ] (s : Stream σ) (frame rest : Bytes), frame.length ≤ greatestCount →
        s.received = Frame.octets frame ++ rest →
          s.receiveFrame = .ok frame { s with received := rest } := by
  constructor
  · intro s
    obtain ⟨frames, rest, hcoming, hframes, hrest⟩ := Frame.exists_frames s.coming
    obtain ⟨stop, hstop⟩ := exists_explains s.peer.lastCause rest
    refine ⟨frames, rest, stop, hcoming, hframes, hrest, hstop.of_negative, hstop.of_not_negative,
      fun calls => ?_⟩
    have h := receiveFrames_delivers calls hcoming hframes hrest hstop
    exact ⟨length_receiveFrames s calls, h.cancellations_eq, h.answers_eq, h.coming_eq⟩
  · intro σ _ s frame rest hle hreceived
    exact receiveFrame_of_whole (Frame.split_eq_whole_iff.mpr ⟨hreceived, hle⟩)

/-- A frame that has been read with the beginning of the next one, which comes in pieces between
which a caller gives up, and after it a length below zero. -/
def cancelledThenNegative : Stream Feed where
  peer := ⟨[.octets 0 [], .cancelled, .octets 0 [7], .octets 8 [255, 255], .octets 255 [255, 1]],
    none⟩
  received := Frame.octets [9] ++ [2, 0]

theorem receiveFrames_feed_cancelledThenNegative :
    [9].length ≤ greatestCount ∧ cancelledThenNegative.received = Frame.octets [9] ++ [2, 0] ∧
      cancelledThenNegative.receiveFrame =
        .ok [9] { cancelledThenNegative with received := [2, 0] } :=
  ⟨by decide, rfl, receiveFrames_feed.2 Feed cancelledThenNegative [9] [2, 0] (by decide) rfl⟩

example : (cancelledThenNegative.receiveFrames 5).1 = [.ok [9], .error .cancelled, .ok [7, 8],
    .error (.failed (.malformedFrame .negativeLength)),
    .error (.failed (.malformedFrame .negativeLength))] := by cbv

end Stream

end ThinClient
