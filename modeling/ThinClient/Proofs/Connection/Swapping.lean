import ThinClient.Proofs.Connection.Trips
import ThinClient.Proofs.Stream.Counterpart

/-!
# Exchanges of frames

Every request is one exchange of frames: what is unsent is sent, and then a frame is waited for, in
the time that is set for both.

* `Connection.Swaps` is what an exchange comes to over any other end, by what is accepted and what
  arrives during it.
* `Connection.swap_of_exchanges` and `swap_of_exchanges_error` are what it comes to over a
  counterpart, by what this is going to do. `exchanges_unique`: that is one thing only.
  `exists_alike`: it comes to nothing else over any other end.
-/

namespace ThinClient.Connection

variable {σ : Type}

/-! ## Exchanges of frames on record -/

/-- What an exchange of frames comes to: what has been done with the other end is on record, and the
time for it was set before and taken back behind. -/
inductive Swaps (timeout : Option Nat) (s : Stream (Recorded σ)) :
    EStateM.Result (Stop TransportError) (Stream (Recorded σ)) Bytes → Prop
  | answered (frame : Bytes) (after : Stream (Recorded σ)) (waits : List Dealing)
      (hdealings : after.peer.dealings =
        s.peer.dealings ++ (.limit timeout :: waits ++ [.limit none]))
      (hwaits : ∀ d ∈ waits, d.isWait = true) (hsent : acceptedIn waits = s.unsent)
      (hunsent : after.unsent = []) (hle : frame.length ≤ greatestCount)
      (hheard : s.received ++ deliveredIn waits = Frame.octets frame ++ after.received) :
      Swaps timeout s (.ok frame after)
  /-- All has been sent, and no frame has arrived. -/
  | unanswered (stop : Stop TransportError) (after : Stream (Recorded σ)) (waits : List Dealing)
      (hdealings : after.peer.dealings =
        s.peer.dealings ++ (.limit timeout :: waits ++ [.limit none]))
      (hwaits : ∀ d ∈ waits, d.isWait = true) (hsent : acceptedIn waits = s.unsent)
      (hunsent : after.unsent = [])
      (hheard : s.received ++ deliveredIn waits = after.received)
      (hframeless : Frame.IsFrameless after.received)
      (hstop : GivenUpIn waits stop) :
      Swaps timeout s (.error stop after)
  /-- Something is left to be sent, and nothing has been waited for. -/
  | unsent (stop : Stop TransportError) (after : Stream (Recorded σ)) (waits : List Dealing)
      (hdealings : after.peer.dealings =
        s.peer.dealings ++ (.limit timeout :: waits ++ [.limit none]))
      (hwaits : ∀ d ∈ waits, d.isWait = true)
      (hsent : acceptedIn waits ++ after.unsent = s.unsent) (hunsent : after.unsent ≠ [])
      (hheard : deliveredIn waits = []) (hreceived : after.received = s.received)
      (hstop : GivenUpIn waits stop) :
      Swaps timeout s (.error stop after)

theorem swap_swaps [Peer σ] (timeout : Option Nat) (s : Stream (Recorded σ)) :
    Swaps timeout s (swap timeout s) := by
  have hdealings {t : Stream (Recorded σ)} {waits : List Dealing}
      (h : Stream.Waited { s with peer := Peer.limit timeout s.peer } waits t) :
      (Peer.limit none t.peer).dealings =
        s.peer.dealings ++ (.limit timeout :: waits ++ [.limit none]) := by
    rw [Recorded.dealings_limit, h.dealings_eq, Recorded.dealings_limit]
    simp
  -- What is unsent is flushed first; only if that succeeds is a frame waited for, in the same time.
  have hflush := Stream.flush_flushes { s with peer := Peer.limit timeout s.peer }
  unfold swap Stream.within
  simp only [bind, EStateM.bind]
  cases hflushed : Stream.flush { s with peer := Peer.limit timeout s.peer } with
  | error stop after =>
    rw [hflushed] at hflush
    cases hflush with
    | stopped _ _ waits hwaited hsent hunsent hdelivered hreceived hstop =>
      exact .unsent stop _ waits (hdealings hwaited) hwaited.isWait hsent hunsent hdelivered
        hreceived hstop
  | ok _ flushed =>
    rw [hflushed] at hflush
    cases hflush with
    | sent _ waits hwaited hsent hunsent hdelivered hreceived =>
      have hhears := Stream.receiveFrame_hears flushed
      have haccepted {later : List Dealing} (h : acceptedIn later = []) :
          acceptedIn (waits ++ later) = s.unsent := by
        rw [acceptedIn_append, h, List.append_nil]
        exact hsent
      have hheard (later : List Dealing) : s.received ++ deliveredIn (waits ++ later) =
          flushed.received ++ deliveredIn later := by
        rw [deliveredIn_append, hdelivered, hreceived]
        rfl
      dsimp only
      cases hframe : flushed.receiveFrame with
      | ok frame after =>
        rw [hframe] at hhears
        cases hhears with
        | frame _ _ later hlater hle hfound hnone hsame =>
          have hboth := hwaited.trans hlater
          exact .answered frame { after with peer := Peer.limit none after.peer } _
            (hdealings hboth) hboth.isWait (haccepted hnone) (hsame.trans hunsent) hle
            ((hheard later).trans hfound)
      | error stop after =>
        rw [hframe] at hhears
        cases hhears with
        | stopped _ _ later hlater hfound hframeless hnone hsame hstop =>
          have hboth := hwaited.trans hlater
          exact .unanswered stop { after with peer := Peer.limit none after.peer } _
            (hdealings hboth) hboth.isWait (haccepted hnone) (hsame.trans hunsent)
            ((hheard later).trans hfound) hframeless
            (hstop.mono (List.subset_append_right _ _))

/-- An exchange that fails has sent a beginning of what was unsent, and no frame has arrived. -/
theorem Swaps.of_error {timeout : Option Nat} {s after : Stream (Recorded σ)}
    {stop : Stop TransportError} (h : Swaps timeout s (.error stop after))
    (hnothing : s.received = []) :
    ∃ waits, after.peer.dealings = s.peer.dealings ++ (.limit timeout :: waits ++ [.limit none]) ∧
      (∀ d ∈ waits, d.isWait = true) ∧ acceptedIn waits <+: s.unsent ∧
      Frame.IsFrameless (deliveredIn waits) ∧ GivenUpIn waits stop := by
  cases h with
  | unanswered _ _ waits hdealings hwaits hsent hunsent hheard hframeless hstop =>
    refine ⟨waits, hdealings, hwaits, hsent ▸ List.prefix_refl _, ?_, hstop⟩
    rw [hnothing, List.nil_append] at hheard
    rwa [hheard]
  | unsent _ _ waits hdealings hwaits hsent hunsent hheard hreceived hstop =>
    refine ⟨waits, hdealings, hwaits, ⟨_, hsent⟩, ?_, hstop⟩
    rw [hheard]
    exact fun body _ h => Frame.octets_ne_nil body (List.prefix_nil.mp h)

section accepted

variable [Peer σ] {timeout : Option Nat} {s after : Stream (Recorded σ)}

/-- Before a frame is taken, all that was unsent is accepted. -/
theorem swap_ok_accepted {frame : Bytes} (h : swap timeout s = .ok frame after) :
    acceptedIn after.peer.dealings = acceptedIn s.peer.dealings ++ s.unsent ∧
      after.unsent = [] := by
  have hswaps := swap_swaps timeout s
  rw [h] at hswaps
  cases hswaps with
  | answered _ _ waits hdealings _ hsent hunsent =>
    refine ⟨?_, hunsent⟩
    simp [hdealings, Dealing.accepted, hsent]

theorem swap_error_accepted {stop : Stop TransportError} (h : swap timeout s = .error stop after) :
    ∃ part, acceptedIn after.peer.dealings = acceptedIn s.peer.dealings ++ part ∧
      s.unsent = part ++ after.unsent := by
  have hswaps := swap_swaps timeout s
  rw [h] at hswaps
  cases hswaps with
  | unanswered _ _ waits hdealings _ hsent hunsent =>
    refine ⟨s.unsent, ?_, by rw [hunsent, List.append_nil]⟩
    simp [hdealings, Dealing.accepted, hsent]
  | unsent _ _ waits hdealings _ hsent =>
    refine ⟨acceptedIn waits, ?_, hsent.symm⟩
    simp [hdealings, Dealing.accepted]

end accepted

/-! ## Exchanges of frames with a counterpart -/

section steps

variable [Peer σ] {timeout : Option Nat} {s flushed after : Stream σ} {stop : Stop TransportError}

theorem swap_of_flushed {frame : Bytes}
    (hflush : Stream.flush { s with peer := Peer.limit timeout s.peer } = .ok () flushed)
    (hreceive : flushed.receiveFrame = .ok frame after) :
    swap timeout s = .ok frame { after with peer := Peer.limit none after.peer } := by
  simp only [swap, Stream.within, bind, EStateM.bind, hflush, hreceive]

theorem swap_of_flush_error
    (hflush : Stream.flush { s with peer := Peer.limit timeout s.peer } = .error stop after) :
    swap timeout s = .error stop { after with peer := Peer.limit none after.peer } := by
  simp only [swap, Stream.within, bind, EStateM.bind, hflush]

theorem swap_of_receive_error
    (hflush : Stream.flush { s with peer := Peer.limit timeout s.peer } = .ok () flushed)
    (hreceive : flushed.receiveFrame = .error stop after) :
    swap timeout s = .error stop { after with peer := Peer.limit none after.peer } := by
  simp only [swap, Stream.within, bind, EStateM.bind, hflush, hreceive]

end steps

section counterpart

variable {timeout : Option Nat} {c : Counterpart} {s : Stream (Recorded Counterpart)}

/-- The time begins with the exchange. -/
theorem peer_limit (hpeer : s.peer.peer = c) :
    (Peer.limit timeout s.peer).peer = ⟨c.intake, c.output, timeout, 0⟩ := by
  rw [← hpeer]
  rfl

/-- If all is taken, nothing has been received when the first piece arrives. -/
theorem exists_flushed {amounts : List Nat} {amount sent : Nat} {later : List (Pause Nat)}
    (htaken : Passes 0 timeout 0 c.intake (amounts ++ [amount]) sent later)
    (hfew : amounts.sum < s.unsent.length) (hall : s.unsent.length ≤ amounts.sum + amount)
    (hpeer : s.peer.peer = c) (hnothing : s.received = []) :
    ∃ flushed : Stream (Recorded Counterpart),
      Stream.flush { s with peer := Peer.limit timeout s.peer } = .ok () flushed ∧
        flushed.peer.peer = ⟨later, c.output, timeout, sent⟩ ∧ flushed.received = [] := by
  obtain ⟨flushed, hflush, hmiddle, hsame⟩ :=
    Stream.flush_of_enough (s := { s with peer := Peer.limit timeout s.peer }) htaken hfew hall
      (peer_limit hpeer)
  exact ⟨flushed, hflush, hmiddle, hsame.trans hnothing⟩

/-- A counterpart that answers is heard, and what comes behind the frame is kept. -/
theorem swap_of_exchanges {frame extra : Bytes} {rest : List (Pause Bytes)}
    (h : c.Exchanges timeout s.unsent.length (.ok (frame, extra, rest)))
    (hpeer : s.peer.peer = c) (hnothing : s.received = []) :
    ∃ after, swap timeout s = .ok frame after ∧ after.received = extra ∧
      after.peer.peer.output = rest := by
  cases h with
  | @answered amounts amount sent last later pieces piece _ _ _ htaken hfew hall harrived
      hframeless hle hframe =>
    obtain ⟨flushed, hflush, hmiddle, hnone⟩ := exists_flushed htaken hfew hall hpeer hnothing
    have hundecided : Frame.split (flushed.received ++ pieces.flatten) = .incomplete := by
      rw [hnone, List.nil_append, Frame.split_eq_incomplete_iff]
      exact ⟨hframeless, fun hnegative =>
        (hnegative.append piece).isFrameless frame hle ⟨extra, hframe.symm⟩⟩
    obtain ⟨heard, hreceive, hheard, hreceived⟩ :=
      Stream.receiveFrame_of_decided harrived hundecided hmiddle
    rw [hnone, List.nil_append, hframe] at hreceived
    have hwhole := Stream.receiveFrame_of_whole (hreceived ▸ Frame.split_octets_append hle extra)
    refine ⟨_, swap_of_flushed hflush (hreceive.trans hwhole), rfl, ?_⟩
    change heard.peer.peer.output = rest
    rw [hheard]

/-- What keeps a counterpart from taking all or from sending a frame is what is reported. -/
theorem swap_of_exchanges_error {stop : Stop TransportError}
    (h : c.Exchanges timeout s.unsent.length (.error stop))
    (hpeer : s.peer.peer = c) (hnothing : s.received = []) :
    ∃ after, swap timeout s = .error stop after := by
  cases h with
  | refused htaken hfew hstop =>
    obtain ⟨middle, hflush, hmiddle, -, hunsent⟩ :=
      Stream.flush_of_passes (s := { s with peer := Peer.limit timeout s.peer }) htaken hfew
        (peer_limit hpeer)
    have hleft : middle.unsent ≠ [] := by
      rw [hunsent, ← List.length_pos_iff, List.length_drop]
      exact Nat.sub_pos_of_lt hfew
    obtain ⟨after, hafter⟩ := Stream.flush_of_halts hstop hleft hmiddle
    exact ⟨_, swap_of_flush_error (hflush.trans hafter)⟩
  | @withheld _ _ _ _ _ pieces _ _ htaken hfew hall harrived hframeless hnonnegative hstop =>
    obtain ⟨flushed, hflush, hmiddle, hnone⟩ := exists_flushed htaken hfew hall hpeer hnothing
    have hundecided : Frame.split (flushed.received ++ pieces.flatten) = .incomplete := by
      rw [hnone, List.nil_append, Frame.split_eq_incomplete_iff]
      exact ⟨hframeless, hnonnegative⟩
    obtain ⟨heard, hreceive, hheard, hreceived⟩ :=
      Stream.receiveFrame_of_passes harrived hundecided hmiddle
    rw [← hreceived] at hundecided
    obtain ⟨after, hafter⟩ := Stream.receiveFrame_of_halts hstop hundecided hheard
    exact ⟨_, swap_of_receive_error hflush (hreceive.trans hafter)⟩
  | @garbled _ _ _ _ _ pieces piece _ htaken hfew hall harrived hnonnegative hnegative =>
    obtain ⟨flushed, hflush, hmiddle, hnone⟩ := exists_flushed htaken hfew hall hpeer hnothing
    have hundecided : Frame.split (flushed.received ++ pieces.flatten) = .incomplete := by
      rw [hnone, List.nil_append, Frame.split_eq_incomplete_iff]
      exact ⟨fun body hle hfront => hnegative.isFrameless body hle
        (hfront.trans (List.prefix_append _ _)), hnonnegative⟩
    obtain ⟨heard, hreceive, -, hreceived⟩ :=
      Stream.receiveFrame_of_decided harrived hundecided hmiddle
    rw [hnone, List.nil_append] at hreceived
    rw [← hreceived] at hnegative
    have hafter := Stream.receiveFrame_of_negative (Frame.split_eq_negative_iff.mpr hnegative)
    exact ⟨_, swap_of_receive_error hflush (hreceive.trans hafter)⟩

/-- An exchange of frames comes to one thing only. -/
theorem exchanges_unique {octets : Nat}
    {first second : Except (Stop TransportError) (Bytes × Bytes × List (Pause Bytes))}
    (h : c.Exchanges timeout octets first) (h' : c.Exchanges timeout octets second) :
    first = second := by
  -- It says what is seen of one and the same swap.
  let s : Stream (Recorded Counterpart) :=
    { peer := { peer := c }, unsent := List.replicate octets 0 }
  have hlength : s.unsent.length = octets := List.length_replicate
  rw [← hlength] at h h'
  cases first with
  | ok heard =>
    obtain ⟨frame, extra, rest⟩ := heard
    obtain ⟨after, hswap, rfl, rfl⟩ := swap_of_exchanges h rfl rfl
    cases second with
    | ok heard' =>
      obtain ⟨frame', extra', rest'⟩ := heard'
      obtain ⟨after', hswap', rfl, rfl⟩ := swap_of_exchanges h' rfl rfl
      cases hswap.symm.trans hswap'
      rfl
    | error stop' =>
      obtain ⟨after', hswap'⟩ := swap_of_exchanges_error h' rfl rfl
      cases hswap.symm.trans hswap'
  | error stop =>
    obtain ⟨after, hswap⟩ := swap_of_exchanges_error h rfl rfl
    cases second with
    | ok heard' =>
      obtain ⟨frame', extra', rest'⟩ := heard'
      obtain ⟨after', hswap', -⟩ := swap_of_exchanges h' rfl rfl
      cases hswap.symm.trans hswap'
    | error stop' =>
      obtain ⟨after', hswap'⟩ := swap_of_exchanges_error h' rfl rfl
      cases hswap.symm.trans hswap'
      rfl

end counterpart

/-- Whatever an exchange of frames with any other end comes to, it also comes to with a
counterpart, unless a time is over that is not set. -/
theorem exists_alike [Peer σ] {timeout : Option Nat} {s : Stream σ} (hunsent : s.unsent ≠ [])
    (hnothing : s.received = [])
    (htime : timeout = none → ∀ after, swap timeout s ≠ .error (.failed .timedOut) after) :
    ∃ c : Counterpart,
      (∃ frame after rest, swap timeout s = .ok frame after ∧
        c.Exchanges timeout s.unsent.length (.ok (frame, after.received, rest))) ∨
      ∃ stop after, swap timeout s = .error stop after ∧
        c.Exchanges timeout s.unsent.length (.error stop) := by
  obtain ⟨flushed, intake, amounts, amount, hflush, hsame, htaken, hfew, hall⟩ |
    ⟨stop, flushed, intake, amounts, later, hflush, htaken, hfew, hhalts⟩ :=
    Stream.exists_intake (s := { s with peer := Peer.limit timeout s.peer }) hunsent
      fun hnone after h => htime hnone _ (swap_of_flush_error h)
  · have hempty : flushed.received = [] := hsame.trans hnothing
    obtain ⟨frame, after, output, pieces, piece, hreceive, harrived, hundecided, hwhole⟩ |
      ⟨after, output, pieces, piece, hreceive, harrived, hundecided, hnegative⟩ |
      ⟨stop, after, output, pieces, later, hreceive, harrived, hundecided, hhalts⟩ :=
      flushed.exists_output (by rw [hempty]; rfl)
        fun hnone after h => htime hnone _ (swap_of_receive_error hflush h)
    all_goals rw [hempty, List.nil_append, Frame.split_eq_incomplete_iff] at hundecided
    · rw [hempty, List.nil_append, Frame.split_eq_whole_iff] at hwhole
      exact ⟨{ intake, output }, .inl ⟨frame, _, [], swap_of_flushed hflush hreceive,
        .answered htaken hfew hall harrived hundecided.1 hwhole.2 hwhole.1⟩⟩
    · rw [hempty, List.nil_append, Frame.split_eq_negative_iff] at hnegative
      exact ⟨{ intake, output }, .inr ⟨_, _, swap_of_receive_error hflush hreceive,
        .garbled htaken hfew hall harrived hundecided.2 hnegative⟩⟩
    · exact ⟨{ intake, output }, .inr ⟨stop, _, swap_of_receive_error hflush hreceive,
        .withheld htaken hfew hall harrived hundecided.1 hundecided.2 hhalts⟩⟩
  · exact ⟨{ intake, output := [] }, .inr ⟨stop, _, swap_of_flush_error hflush,
      .refused htaken hfew hhalts⟩⟩

end ThinClient.Connection
