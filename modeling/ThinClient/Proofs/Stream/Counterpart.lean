import Mathlib.Algebra.GroupWithZero.Nat
import ThinClient.Proofs.Stream.Record

/-!
# The other end of a stream, by what it takes and what it sends

Whoever sends a request and waits for a frame depends on the other end: how many octets it takes at
a time, in which pieces its own octets come, when all of this happens, and what happens instead.

* `Counterpart` is another end that does all of this as it is told.
* `Passes` and `Halts` are what can be said of its waits before they are gone through: the first of
  them end with values in the time that is set, and the next one stops whoever waits.
* `Counterpart.Exchanges` says in these words what an exchange of frames comes to.
  `Counterpart.exists_exchanges`: it always comes to something.
* `Stream.flush_of_passes` and `Stream.receiveFrame_of_passes` go through waits that end with
  values, `Stream.flush_of_halts` and `Stream.receiveFrame_of_halts` stop at the next one.
* `Stream.exists_intake` and `Stream.exists_output`: what any other end takes and sends in a call, a
  counterpart takes and sends as well.
-/

namespace ThinClient

/-! ## Waits -/

/-- How one wait on the other end of a byte stream would end, and after how many milliseconds. -/
inductive Pause (α : Type) where
  | ends (outcome : Except IoError α) (delay : Nat)
  /-- The caller gives up before it ends. -/
  | givenUp

/-- Whether a moment is not behind the time that is set. -/
def inTime (timeout : Option Nat) (moment : Nat) : Bool :=
  timeout.all (moment ≤ ·)

/-- How the next of some waits ends, when that is, and the waits that are left. A wait that would
end too late goes on behind the time that is set. -/
def Pause.next {α : Type} (timeout : Option Nat) (moment : Nat) :
    List (Pause α) → Delivery α × Nat × List (Pause α)
  | [] => (if timeout.isSome then .timedOut else .cancelled, moment, [])
  | .givenUp :: later => (.cancelled, moment, later)
  | .ends outcome delay :: later =>
    if inTime timeout (moment + delay) then
      match outcome with
      | .ok value => (.done value, moment + delay, later)
      | .error cause => (.failed cause, moment + delay, later)
    else (.timedOut, moment, .ends outcome delay :: later)

/-- The other end of a byte stream that takes octets in chosen numbers and sends chosen pieces, each
after a time of its own. Behind its last wait in a direction nothing happens any more: who waits for
that is stopped by the time that is set, or has to give up. -/
structure Counterpart where
  /-- How many octets are taken at a time; none at all is a failure to write. -/
  intake : List (Pause Nat)
  /-- The pieces that arrive; an empty one is the end of the stream. -/
  output : List (Pause Bytes)
  /-- How many milliseconds waits may take together. -/
  timeout : Option Nat := none
  /-- The milliseconds that they have taken. -/
  moment : Nat := 0

/-- The delivery of no more than is there. -/
def Delivery.atMost (limit : Nat) : Delivery Nat → Delivery Nat
  | .done n => .done (min n limit)
  | delivery => delivery

instance : Peer Counterpart where
  limit timeout c := { c with timeout, moment := 0 }
  read c :=
    let (delivery, moment, output) := Pause.next c.timeout c.moment c.output
    (delivery, { c with moment, output })
  write octets c :=
    let (delivery, moment, intake) := Pause.next c.timeout c.moment c.intake
    (delivery.atMost octets.length, { c with moment, intake })
  shutdown c := (.done (), c)

section

variable {α : Type}

/-- The first of some waits end with values in the time that is set, and none of them with nothing:
from one moment and these waits to another moment and the waits that are left. -/
inductive Passes (nothing : α) (timeout : Option Nat) :
    Nat → List (Pause α) → List α → Nat → List (Pause α) → Prop
  | refl (moment : Nat) (waits : List (Pause α)) :
      Passes nothing timeout moment waits [] moment waits
  | cons {value : α} {moment delay last : Nat} {waits later : List (Pause α)} {values : List α}
      (hvalue : value ≠ nothing) (hin : inTime timeout (moment + delay) = true)
      (hrest : Passes nothing timeout (moment + delay) waits values last later) :
      Passes nothing timeout moment (.ends (.ok value) delay :: waits) (value :: values) last later

/-- How the next of some waits stops whoever waits, where a wait that ends with nothing is a
failure. -/
inductive Halts (nothing : α) (meaning : IoError) (timeout : Option Nat) (moment : Nat) :
    List (Pause α) → Stop TransportError → Prop
  | nothing (delay : Nat) (later : List (Pause α)) (hin : inTime timeout (moment + delay) = true) :
      Halts nothing meaning timeout moment (.ends (.ok nothing) delay :: later)
        (.failed (.io meaning))
  | failed (cause : IoError) (delay : Nat) (later : List (Pause α))
      (hin : inTime timeout (moment + delay) = true) :
      Halts nothing meaning timeout moment (.ends (.error cause) delay :: later)
        (.failed (.io cause))
  | late (outcome : Except IoError α) (delay : Nat) (later : List (Pause α))
      (hlate : inTime timeout (moment + delay) = false) :
      Halts nothing meaning timeout moment (.ends outcome delay :: later) (.failed .timedOut)
  | givenUp (later : List (Pause α)) :
      Halts nothing meaning timeout moment (.givenUp :: later) .cancelled
  | silent (hset : timeout.isSome = true) :
      Halts nothing meaning timeout moment [] (.failed .timedOut)
  /-- Without a time that is set, whoever waits for something that never comes has to give up. -/
  | endless (hnone : timeout = none) : Halts nothing meaning timeout moment [] .cancelled

variable {nothing value : α} {meaning : IoError} {timeout : Option Nat} {moment last : Nat}
  {waits later : List (Pause α)} {values : List α} {stop : Stop TransportError}

theorem Pause.next_of_done {delay : Nat} (hin : inTime timeout (moment + delay) = true) :
    next timeout moment (.ends (.ok value) delay :: later) =
      (.done value, moment + delay, later) :=
  if_pos hin

/-- A wait that stops whoever waits ends so, or with nothing. -/
theorem Halts.next (h : Halts nothing meaning timeout moment waits stop) :
    ∃ delivery last later, Pause.next timeout moment waits = (delivery, last, later) ∧
      (delivery.toExcept = .error stop ∨
        delivery = .done nothing ∧ stop = .failed (.io meaning)) := by
  cases h with
  | nothing delay later hin => exact ⟨_, _, _, Pause.next_of_done hin, .inr ⟨rfl, rfl⟩⟩
  | failed cause delay later hin =>
    exact ⟨.failed cause, moment + delay, later, if_pos hin, .inl rfl⟩
  | late outcome delay later hlate =>
    exact ⟨.timedOut, _, _, if_neg (by simp [hlate]), .inl rfl⟩
  | givenUp later => exact ⟨.cancelled, _, _, rfl, .inl rfl⟩
  | silent hset => exact ⟨.timedOut, moment, [], by simp [Pause.next, hset], .inl rfl⟩
  | endless hnone => exact ⟨.cancelled, moment, [], by simp [Pause.next, hnone], .inl rfl⟩

/-- The next wait ends with a value in time, or stops whoever waits. -/
theorem value_or_halts (nothing : α) (meaning : IoError) (timeout : Option Nat) (moment : Nat)
    (waits : List (Pause α)) :
    (∃ value delay later, waits = .ends (.ok value) delay :: later ∧ value ≠ nothing ∧
      inTime timeout (moment + delay) = true) ∨
    ∃ stop, Halts nothing meaning timeout moment waits stop := by
  cases waits with
  | nil =>
    cases timeout with
    | none => exact .inr ⟨_, .endless rfl⟩
    | some limit => exact .inr ⟨_, .silent rfl⟩
  | cons wait later =>
    cases wait with
    | givenUp => exact .inr ⟨_, .givenUp later⟩
    | ends outcome delay =>
      cases hin : inTime timeout (moment + delay) with
      | false => exact .inr ⟨_, .late outcome delay later hin⟩
      | true =>
        cases outcome with
        | error cause => exact .inr ⟨_, .failed cause delay later hin⟩
        | ok value =>
          by_cases hvalue : value = nothing
          · subst hvalue
            exact .inr ⟨_, .nothing delay later hin⟩
          · exact .inl ⟨value, delay, later, rfl, hvalue, hin⟩

/-- Waits are gone through one after the other. -/
theorem Passes.append_inv {first second : List α}
    (h : Passes nothing timeout moment waits (first ++ second) last later) :
    ∃ middle between, Passes nothing timeout moment waits first middle between ∧
      Passes nothing timeout middle between second last later := by
  induction first generalizing moment waits with
  | nil => exact ⟨moment, waits, .refl _ _, h⟩
  | cons value first ih =>
    cases h with
    | cons hvalue hin hrest =>
      obtain ⟨middle, between, hfirst, hsecond⟩ := ih hrest
      exact ⟨middle, between, .cons hvalue hin hfirst, hsecond⟩

end

/-! ## Exchanges of frames -/

namespace Counterpart

/-- What an exchange of frames comes to in the time that is set, where so many octets are sent: a
frame with what has arrived behind it and what is still to arrive, or why there is no frame. Sending
goes on until enough octets are taken, and receiving begins at that moment and goes on until the
octets that have arrived decide. -/
inductive Exchanges (c : Counterpart) (timeout : Option Nat) (octets : Nat) :
    Except (Stop TransportError) (Bytes × Bytes × List (Pause Bytes)) → Prop
  /-- Not all octets are taken. -/
  | refused {amounts : List Nat} {sent : Nat} {later : List (Pause Nat)}
      {stop : Stop TransportError} (htaken : Passes 0 timeout 0 c.intake amounts sent later)
      (hfew : amounts.sum < octets) (hstop : Halts 0 .writeZero timeout sent later stop) :
      Exchanges c timeout octets (.error stop)
  /-- All octets are taken, and what arrives is not a whole frame. -/
  | withheld {amounts : List Nat} {amount sent last : Nat} {later : List (Pause Nat)}
      {pieces : List Bytes} {rest : List (Pause Bytes)} {stop : Stop TransportError}
      (htaken : Passes 0 timeout 0 c.intake (amounts ++ [amount]) sent later)
      (hfew : amounts.sum < octets) (hall : octets ≤ amounts.sum + amount)
      (harrived : Passes [] timeout sent c.output pieces last rest)
      (hframeless : Frame.IsFrameless pieces.flatten)
      (hnonnegative : ¬ Frame.IsNegative pieces.flatten)
      (hstop : Halts [] .unexpectedEof timeout last rest stop) :
      Exchanges c timeout octets (.error stop)
  /-- All octets are taken, and what arrives begins with a length below zero. -/
  | garbled {amounts : List Nat} {amount sent last : Nat} {later : List (Pause Nat)}
      {pieces : List Bytes} {piece : Bytes} {rest : List (Pause Bytes)}
      (htaken : Passes 0 timeout 0 c.intake (amounts ++ [amount]) sent later)
      (hfew : amounts.sum < octets) (hall : octets ≤ amounts.sum + amount)
      (harrived : Passes [] timeout sent c.output (pieces ++ [piece]) last rest)
      (hnonnegative : ¬ Frame.IsNegative pieces.flatten)
      (hnegative : Frame.IsNegative (pieces.flatten ++ piece)) :
      Exchanges c timeout octets (.error (.failed (.malformedFrame .negativeLength)))
  /-- All octets are taken, and a frame arrives, of which the last piece brings the end. -/
  | answered {amounts : List Nat} {amount sent last : Nat} {later : List (Pause Nat)}
      {pieces : List Bytes} {piece frame extra : Bytes} {rest : List (Pause Bytes)}
      (htaken : Passes 0 timeout 0 c.intake (amounts ++ [amount]) sent later)
      (hfew : amounts.sum < octets) (hall : octets ≤ amounts.sum + amount)
      (harrived : Passes [] timeout sent c.output (pieces ++ [piece]) last rest)
      (hframeless : Frame.IsFrameless pieces.flatten) (hle : frame.length ≤ greatestCount)
      (hframe : pieces.flatten ++ piece = Frame.octets frame ++ extra) :
      Exchanges c timeout octets (.ok (frame, extra, rest))

variable {timeout : Option Nat}

/-- Octets are offered until enough are taken or a wait stops. -/
theorem taken_or_halts (timeout : Option Nat) (moment : Nat) (waits : List (Pause Nat))
    {octets : Nat} (hoctets : 0 < octets) :
    (∃ amounts amount sent later, Passes 0 timeout moment waits (amounts ++ [amount]) sent later ∧
      amounts.sum < octets ∧ octets ≤ amounts.sum + amount) ∨
    ∃ amounts sent later stop, Passes 0 timeout moment waits amounts sent later ∧
      amounts.sum < octets ∧ Halts 0 .writeZero timeout sent later stop := by
  induction waits generalizing moment octets with
  | nil =>
    obtain ⟨_, _, _, heq, -⟩ | ⟨stop, hstop⟩ := value_or_halts 0 .writeZero timeout moment []
    · cases heq
    · exact .inr ⟨[], moment, [], stop, .refl _ _, hoctets, hstop⟩
  | cons wait waits ih =>
    obtain ⟨amount, delay, _, heq, hvalue, hin⟩ | ⟨stop, hstop⟩ :=
      value_or_halts 0 .writeZero timeout moment (wait :: waits)
    · cases heq
      by_cases henough : octets ≤ amount
      · exact .inl ⟨[], amount, _, _, .cons hvalue hin (.refl _ _), hoctets, by simpa using henough⟩
      · have hleft : 0 < octets - amount := by omega
        obtain ⟨amounts, last, sent, later, hpasses, hfew, hall⟩ |
          ⟨amounts, sent, later, stop, hpasses, hfew, hstop⟩ := ih (moment + delay) hleft
        · refine .inl ⟨amount :: amounts, last, sent, later, .cons hvalue hin hpasses, ?_, ?_⟩ <;>
            rw [List.sum_cons] <;> omega
        · refine .inr ⟨amount :: amounts, sent, later, stop, .cons hvalue hin hpasses, ?_, hstop⟩
          rw [List.sum_cons]
          omega
    · exact .inr ⟨[], moment, _, stop, .refl _ _, hoctets, hstop⟩

/-- Octets are waited for until they decide or a wait stops; `before` has arrived already. -/
theorem decided_or_halts (timeout : Option Nat) (moment : Nat) (waits : List (Pause Bytes))
    {before : Bytes} (hbefore : Frame.split before = .incomplete) :
    (∃ pieces piece last later, Passes [] timeout moment waits (pieces ++ [piece]) last later ∧
      Frame.split (before ++ pieces.flatten) = .incomplete ∧
      Frame.split (before ++ (pieces.flatten ++ piece)) ≠ .incomplete) ∨
    ∃ pieces last later stop, Passes [] timeout moment waits pieces last later ∧
      Frame.split (before ++ pieces.flatten) = .incomplete ∧
      Halts [] .unexpectedEof timeout last later stop := by
  have hnothing : Frame.split (before ++ [].flatten) = .incomplete := by simpa using hbefore
  induction waits generalizing moment before with
  | nil =>
    obtain ⟨_, _, _, heq, -⟩ | ⟨stop, hstop⟩ := value_or_halts [] .unexpectedEof timeout moment []
    · cases heq
    · exact .inr ⟨[], moment, [], stop, .refl _ _, hnothing, hstop⟩
  | cons wait waits ih =>
    obtain ⟨piece, delay, _, heq, hvalue, hin⟩ | ⟨stop, hstop⟩ :=
      value_or_halts [] .unexpectedEof timeout moment (wait :: waits)
    · cases heq
      by_cases hmore : Frame.split (before ++ piece) = .incomplete
      · obtain ⟨pieces, last, end_, later, hpasses, hundecided, hdecided⟩ |
          ⟨pieces, last, later, stop, hpasses, hundecided, hstop⟩ :=
          ih (moment + delay) hmore (by simpa using hmore)
        · refine .inl ⟨piece :: pieces, last, end_, later, .cons hvalue hin hpasses, ?_, ?_⟩
          · simpa [List.append_assoc] using hundecided
          · simpa [List.append_assoc] using hdecided
        · refine .inr ⟨piece :: pieces, last, later, stop, .cons hvalue hin hpasses, ?_, hstop⟩
          simpa [List.append_assoc] using hundecided
      · exact .inl ⟨[], piece, _, _, .cons hvalue hin (.refl _ _), hnothing, by simpa using hmore⟩
    · exact .inr ⟨[], moment, _, stop, .refl _ _, hnothing, hstop⟩

/-- An exchange of frames always comes to something. -/
theorem exists_exchanges (c : Counterpart) (timeout : Option Nat) {octets : Nat}
    (hoctets : 0 < octets) : ∃ outcome, c.Exchanges timeout octets outcome := by
  obtain ⟨amounts, amount, sent, later, htaken, hfew, hall⟩ |
    ⟨amounts, sent, later, stop, htaken, hfew, hstop⟩ :=
    taken_or_halts timeout 0 c.intake hoctets
  · have hnothing : Frame.split [] = .incomplete := rfl
    obtain ⟨pieces, piece, last, rest, harrived, hundecided, hdecided⟩ |
      ⟨pieces, last, rest, stop, harrived, hundecided, hstop⟩ :=
      decided_or_halts timeout sent c.output hnothing
    · obtain ⟨hframeless, hnonnegative⟩ := Frame.split_eq_incomplete_iff.mp hundecided
      cases hsplit : Frame.split (pieces.flatten ++ piece) with
      | incomplete => exact absurd hsplit hdecided
      | negative =>
        exact ⟨_, .garbled htaken hfew hall harrived hnonnegative
          (Frame.split_eq_negative_iff.mp hsplit)⟩
      | whole frame extra =>
        obtain ⟨hframe, hle⟩ := Frame.split_eq_whole_iff.mp hsplit
        exact ⟨_, .answered htaken hfew hall harrived hframeless hle hframe⟩
    · obtain ⟨hframeless, hnonnegative⟩ := Frame.split_eq_incomplete_iff.mp hundecided
      exact ⟨_, .withheld htaken hfew hall harrived hframeless hnonnegative hstop⟩
  · exact ⟨_, .refused htaken hfew hstop⟩

end Counterpart

/-! ## Calls on a counterpart -/

namespace Stream

variable {s : Stream (Recorded Counterpart)} {timeout : Option Nat} {moment last : Nat}
  {stop : Stop TransportError}

section

variable {waits later : List (Pause Nat)} {output : List (Pause Bytes)}

theorem exists_write {delivery : Delivery Nat} (octets : Bytes)
    (h : Pause.next timeout moment waits = (delivery, last, later))
    (hpeer : s.peer.peer = ⟨waits, output, timeout, moment⟩) :
    ∃ peer, Peer.write octets s.peer = (delivery.atMost octets.length, peer) ∧
      peer.peer = ⟨later, output, timeout, last⟩ := by
  have hwrite : Peer.write octets s.peer.peer =
      (delivery.atMost octets.length, ⟨later, output, timeout, last⟩) := by
    rw [hpeer]
    simp only [Peer.write, h]
  exact ⟨_, Recorded.write_eq hwrite, rfl⟩

/-- A write that ends with a value leaves so much less to send. -/
theorem flush_of_value {amount delay : Nat} (hunsent : s.unsent ≠ []) (hvalue : amount ≠ 0)
    (hin : inTime timeout (moment + delay) = true)
    (hpeer : s.peer.peer = ⟨.ends (.ok amount) delay :: later, output, timeout, moment⟩) :
    ∃ after : Stream (Recorded Counterpart), s.flush = after.flush ∧
      after.peer.peer = ⟨later, output, timeout, moment + delay⟩ ∧
      after.received = s.received ∧ after.unsent = s.unsent.drop amount := by
  have hpos := List.length_pos_iff.mpr hunsent
  obtain ⟨peer, hwrite, hafter⟩ := exists_write s.unsent (Pause.next_of_done hin) hpeer
  obtain ⟨n, hn⟩ : ∃ n, min amount s.unsent.length = n + 1 :=
    Nat.exists_eq_add_one.mpr (by omega)
  have hdrop : s.unsent.drop (n + 1) = s.unsent.drop amount := by
    rcases Nat.le_total amount s.unsent.length with hle | hle
    · rw [← hn, Nat.min_eq_left hle]
    · rw [← hn, Nat.min_eq_right hle, List.drop_length, List.drop_of_length_le hle]
  rw [Delivery.atMost, hn] at hwrite
  exact ⟨_, flush_of_taken hunsent hwrite, hafter, rfl, hdrop⟩

/-- Writes that end with values leave a call that has so much less to send. -/
theorem flush_of_passes {amounts : List Nat}
    (h : Passes 0 timeout moment waits amounts last later) (hfew : amounts.sum < s.unsent.length)
    (hpeer : s.peer.peer = ⟨waits, output, timeout, moment⟩) :
    ∃ after : Stream (Recorded Counterpart), s.flush = after.flush ∧
      after.peer.peer = ⟨later, output, timeout, last⟩ ∧ after.received = s.received ∧
      after.unsent = s.unsent.drop amounts.sum := by
  induction h generalizing s with
  | refl moment waits => exact ⟨s, rfl, hpeer, rfl, rfl⟩
  | cons hvalue hin hrest ih =>
    rw [List.sum_cons] at hfew ⊢
    obtain ⟨middle, hflush, hmiddle, hsame, hunsent⟩ :=
      flush_of_value (List.length_pos_iff.mp (by omega)) hvalue hin hpeer
    obtain ⟨after, hflush', hafter, hsame', hunsent'⟩ :=
      ih (s := middle) (by rw [hunsent, List.length_drop]; omega) hmiddle
    refine ⟨after, hflush.trans hflush', hafter, hsame'.trans hsame, ?_⟩
    rw [hunsent', hunsent, List.drop_drop]

theorem flush_of_halts (h : Halts 0 .writeZero timeout moment waits stop) (hunsent : s.unsent ≠ [])
    (hpeer : s.peer.peer = ⟨waits, output, timeout, moment⟩) :
    ∃ after, s.flush = .error stop after := by
  obtain ⟨delivery, last, later, hnext, hstop | ⟨rfl, rfl⟩⟩ := h.next
  · obtain ⟨peer, hwrite, -⟩ := exists_write s.unsent hnext hpeer
    have hsame : delivery.atMost s.unsent.length = delivery := by
      cases delivery <;> first | rfl | cases hstop
    rw [hsame] at hwrite
    exact ⟨_, flush_of_stop hunsent hwrite hstop⟩
  · obtain ⟨peer, hwrite, -⟩ := exists_write s.unsent hnext hpeer
    rw [Delivery.atMost, Nat.zero_min] at hwrite
    exact ⟨_, flush_of_zero hunsent hwrite⟩

/-- All is sent by writes of which the last one takes what is left. -/
theorem flush_of_enough {amounts : List Nat} {amount : Nat}
    (h : Passes 0 timeout moment waits (amounts ++ [amount]) last later)
    (hfew : amounts.sum < s.unsent.length) (hall : s.unsent.length ≤ amounts.sum + amount)
    (hpeer : s.peer.peer = ⟨waits, output, timeout, moment⟩) :
    ∃ after, s.flush = .ok () after ∧ after.peer.peer = ⟨later, output, timeout, last⟩ ∧
      after.received = s.received := by
  obtain ⟨between, rest, hfirst, hlast⟩ := h.append_inv
  obtain ⟨middle, hflush, hmiddle, hsame, hunsent⟩ := flush_of_passes hfirst hfew hpeer
  cases hlast with
  | cons hvalue hin hnone =>
    cases hnone
    have hleft : middle.unsent ≠ [] := by
      rw [hunsent, ← List.length_pos_iff, List.length_drop]
      omega
    obtain ⟨after, hflush', hafter, hsame', hunsent'⟩ := flush_of_value hleft hvalue hin hmiddle
    have hnothing : after.unsent = [] := by
      rw [hunsent', hunsent, List.drop_drop, List.drop_of_length_le hall]
    exact ⟨after, by rw [hflush, hflush', flush_nil hnothing], hafter, hsame'.trans hsame⟩

end

section

variable {waits later : List (Pause Bytes)} {intake : List (Pause Nat)} {pieces : List Bytes}

theorem exists_read {delivery : Delivery Bytes}
    (h : Pause.next timeout moment waits = (delivery, last, later))
    (hpeer : s.peer.peer = ⟨intake, waits, timeout, moment⟩) :
    ∃ peer, Peer.read s.peer = (delivery, peer) ∧
      peer.peer = ⟨intake, later, timeout, last⟩ := by
  have hread : Peer.read s.peer.peer = (delivery, ⟨intake, later, timeout, last⟩) := by
    rw [hpeer]
    simp only [Peer.read, h]
  exact ⟨_, Recorded.read_eq hread, rfl⟩

/-- A read that ends with a piece leaves a call that has received it. -/
theorem receiveFrame_of_value {piece : Bytes} {delay : Nat}
    (hsplit : Frame.split s.received = .incomplete) (hvalue : piece ≠ [])
    (hin : inTime timeout (moment + delay) = true)
    (hpeer : s.peer.peer = ⟨intake, .ends (.ok piece) delay :: later, timeout, moment⟩) :
    ∃ after : Stream (Recorded Counterpart), s.receiveFrame = after.receiveFrame ∧
      after.peer.peer = ⟨intake, later, timeout, moment + delay⟩ ∧
      after.received = s.received ++ piece := by
  obtain ⟨b, bs, rfl⟩ := List.exists_cons_of_ne_nil hvalue
  obtain ⟨peer, hread, hafter⟩ := exists_read (Pause.next_of_done hin) hpeer
  exact ⟨_, receiveFrame_of_octets hsplit hread, hafter, rfl⟩

/-- Reads that end with pieces leave a call that has received them, if they do not decide. -/
theorem receiveFrame_of_passes (h : Passes [] timeout moment waits pieces last later)
    (hsplit : Frame.split (s.received ++ pieces.flatten) = .incomplete)
    (hpeer : s.peer.peer = ⟨intake, waits, timeout, moment⟩) :
    ∃ after : Stream (Recorded Counterpart), s.receiveFrame = after.receiveFrame ∧
      after.peer.peer = ⟨intake, later, timeout, last⟩ ∧
      after.received = s.received ++ pieces.flatten := by
  induction h generalizing s with
  | refl moment waits => exact ⟨s, rfl, hpeer, (List.append_nil _).symm⟩
  | @cons piece _ _ _ _ _ pieces hvalue hin hrest ih =>
    rw [List.flatten_cons, ← List.append_assoc] at hsplit ⊢
    have hundecided : Frame.split s.received = .incomplete :=
      Frame.split_eq_incomplete_of_append (Frame.split_eq_incomplete_of_append hsplit)
    obtain ⟨middle, hreceive, hmiddle, hreceived⟩ :=
      receiveFrame_of_value hundecided hvalue hin hpeer
    rw [← hreceived] at hsplit ⊢
    obtain ⟨after, hreceive', hafter, hreceived'⟩ := ih hsplit hmiddle
    exact ⟨after, hreceive.trans hreceive', hafter, hreceived'⟩

theorem receiveFrame_of_halts (h : Halts [] .unexpectedEof timeout moment waits stop)
    (hsplit : Frame.split s.received = .incomplete)
    (hpeer : s.peer.peer = ⟨intake, waits, timeout, moment⟩) :
    ∃ after, s.receiveFrame = .error stop after := by
  obtain ⟨delivery, last, later, hnext, hstop | ⟨rfl, rfl⟩⟩ := h.next
  · obtain ⟨peer, hread, -⟩ := exists_read hnext hpeer
    exact ⟨_, receiveFrame_of_stop hsplit hread hstop⟩
  · obtain ⟨peer, hread, -⟩ := exists_read hnext hpeer
    exact ⟨_, receiveFrame_of_end hsplit hread⟩

/-- A call goes through the pieces of which the last one decides. -/
theorem receiveFrame_of_decided {piece : Bytes}
    (h : Passes [] timeout moment waits (pieces ++ [piece]) last later)
    (hsplit : Frame.split (s.received ++ pieces.flatten) = .incomplete)
    (hpeer : s.peer.peer = ⟨intake, waits, timeout, moment⟩) :
    ∃ after : Stream (Recorded Counterpart), s.receiveFrame = after.receiveFrame ∧
      after.peer.peer = ⟨intake, later, timeout, last⟩ ∧
      after.received = s.received ++ (pieces.flatten ++ piece) := by
  obtain ⟨between, rest, hfirst, hlast⟩ := h.append_inv
  obtain ⟨middle, hreceive, hmiddle, hreceived⟩ := receiveFrame_of_passes hfirst hsplit hpeer
  cases hlast with
  | cons hvalue hin hnone =>
    cases hnone
    rw [← hreceived] at hsplit
    obtain ⟨after, hreceive', hafter, hreceived'⟩ :=
      receiveFrame_of_value hsplit hvalue hin hmiddle
    refine ⟨after, hreceive.trans hreceive', hafter, ?_⟩
    rw [hreceived', hreceived, List.append_assoc]

end

/-! ## Any other end -/

section alike

variable {σ : Type} [Peer σ] {s : Stream σ} {timeout : Option Nat}

theorem inTime_zero (timeout : Option Nat) : inTime timeout (0 + 0) = true := by
  cases timeout <;> simp [inTime]

/-- What stops a call can stop it at once, unless it is a time that is not set. -/
theorem exists_halts {α : Type} {delivery : Delivery α} {stop : Stop TransportError}
    (h : delivery.toExcept = .error stop) (htime : timeout = none → stop ≠ .failed .timedOut)
    (nothing : α) (meaning : IoError) : ∃ waits, Halts nothing meaning timeout 0 waits stop := by
  cases delivery with
  | done => cases h
  | failed cause =>
    cases h
    exact ⟨_, .failed cause 0 [] (inTime_zero timeout)⟩
  | timedOut =>
    cases h
    cases timeout with
    | none => exact absurd rfl (htime rfl)
    | some limit => exact ⟨_, .silent rfl⟩
  | cancelled =>
    cases h
    exact ⟨_, .givenUp []⟩

/-- Whatever the other end takes, a counterpart takes as well. -/
theorem exists_intake (hunsent : s.unsent ≠ [])
    (htime : timeout = none → ∀ after, s.flush ≠ .error (.failed .timedOut) after) :
    (∃ after intake amounts amount, s.flush = .ok () after ∧ after.received = s.received ∧
      Passes 0 timeout 0 intake (amounts ++ [amount]) 0 [] ∧ amounts.sum < s.unsent.length ∧
      s.unsent.length ≤ amounts.sum + amount) ∨
    ∃ stop after intake amounts later, s.flush = .error stop after ∧
      Passes 0 timeout 0 intake amounts 0 later ∧ amounts.sum < s.unsent.length ∧
      Halts 0 .writeZero timeout 0 later stop := by
  have hpos := List.length_pos_iff.mpr hunsent
  fun_induction flush s with
  | case1 s hnone => exact absurd hnone hunsent
  | case2 s hunsent delivery peer hwrite stop hstop =>
    obtain ⟨waits, hhalts⟩ := exists_halts hstop
      (fun hnone heq => htime hnone _ (by rw [heq])) 0 .writeZero
    exact .inr ⟨stop, _, waits, [], waits, rfl, .refl _ _, hpos, hhalts⟩
  | case3 s hunsent delivery peer hwrite hdone =>
    exact .inr ⟨_, _, _, [], _, rfl, .refl _ _, hpos, .nothing 0 [] (inTime_zero timeout)⟩
  | case4 s hunsent delivery peer hwrite n hdone ih =>
    have hvalue : n + 1 ≠ 0 := Nat.succ_ne_zero n
    by_cases hleft : s.unsent.drop (n + 1) = []
    · refine .inl ⟨_, _, [], n + 1, flush_nil hleft, rfl,
        .cons hvalue (inTime_zero timeout) (.refl _ _), hpos, ?_⟩
      simpa [List.drop_eq_nil_iff] using hleft
    · have hlonger : (s.unsent.drop (n + 1)).length = s.unsent.length - (n + 1) := List.length_drop
      obtain ⟨after, intake, amounts, amount, hflush, hsame, hpasses, hfew, hall⟩ |
        ⟨stop, after, intake, amounts, later, hflush, hpasses, hfew, hhalts⟩ :=
        ih hleft htime (List.length_pos_iff.mpr hleft)
      · dsimp only at hfew hall
        refine .inl ⟨after, _, (n + 1) :: amounts, amount, hflush, hsame,
          .cons hvalue (inTime_zero timeout) hpasses, ?_, ?_⟩ <;>
          rw [List.sum_cons] <;> omega
      · dsimp only at hfew
        refine .inr ⟨stop, after, _, (n + 1) :: amounts, later, hflush,
          .cons hvalue (inTime_zero timeout) hpasses, ?_, hhalts⟩
        rw [List.sum_cons]
        omega

/-- Whatever the other end sends, a counterpart sends as well. -/
theorem exists_output (hsplit : Frame.split s.received = .incomplete)
    (htime : timeout = none → ∀ after, s.receiveFrame ≠ .error (.failed .timedOut) after) :
    (∃ frame after output pieces piece, s.receiveFrame = .ok frame after ∧
      Passes [] timeout 0 output (pieces ++ [piece]) 0 [] ∧
      Frame.split (s.received ++ pieces.flatten) = .incomplete ∧
      Frame.split (s.received ++ (pieces.flatten ++ piece)) = .whole frame after.received) ∨
    (∃ after output pieces piece,
      s.receiveFrame = .error (.failed (.malformedFrame .negativeLength)) after ∧
      Passes [] timeout 0 output (pieces ++ [piece]) 0 [] ∧
      Frame.split (s.received ++ pieces.flatten) = .incomplete ∧
      Frame.split (s.received ++ (pieces.flatten ++ piece)) = .negative) ∨
    ∃ stop after output pieces later, s.receiveFrame = .error stop after ∧
      Passes [] timeout 0 output pieces 0 later ∧
      Frame.split (s.received ++ pieces.flatten) = .incomplete ∧
      Halts [] .unexpectedEof timeout 0 later stop := by
  have hnothing : Frame.split (s.received ++ [].flatten) = .incomplete := by simpa using hsplit
  fun_induction receiveFrame s with
  | case1 s body rest hwhole =>
    rw [hwhole] at hsplit
    cases hsplit
  | case2 s hnegative =>
    rw [hnegative] at hsplit
    cases hsplit
  | case3 s hsplit delivery peer hread stop hstop =>
    obtain ⟨waits, hhalts⟩ := exists_halts hstop
      (fun hnone heq => htime hnone _ (by rw [heq])) [] .unexpectedEof
    exact .inr (.inr ⟨stop, _, waits, [], waits, rfl, .refl _ _, hnothing, hhalts⟩)
  | case4 s hsplit delivery peer hread hdone =>
    exact .inr (.inr ⟨_, _, _, [], _, rfl, .refl _ _, hnothing, .nothing 0 [] (inTime_zero timeout)⟩)
  | case5 s hundecided delivery peer hread b bs hdone ih =>
    have hvalue : b :: bs ≠ [] := List.cons_ne_nil b bs
    cases hmore : Frame.split (s.received ++ b :: bs) with
    | whole frame rest =>
      exact .inl ⟨frame, _, _, [], b :: bs, receiveFrame_of_whole hmore,
        .cons hvalue (inTime_zero timeout) (.refl _ _), hnothing, by simpa using hmore⟩
    | negative =>
      exact .inr (.inl ⟨_, _, [], b :: bs, receiveFrame_of_negative hmore,
        .cons hvalue (inTime_zero timeout) (.refl _ _), hnothing, by simpa using hmore⟩)
    | incomplete =>
      obtain ⟨frame, after, output, pieces, piece, hreceive, hpasses, hundecided, hwhole⟩ |
        ⟨after, output, pieces, piece, hreceive, hpasses, hundecided, hnegative⟩ |
        ⟨stop, after, output, pieces, later, hreceive, hpasses, hundecided, hhalts⟩ :=
        ih hmore htime (by simpa using hmore)
      · refine .inl ⟨frame, after, _, (b :: bs) :: pieces, piece, hreceive,
          .cons hvalue (inTime_zero timeout) hpasses, ?_, ?_⟩
        · simpa [List.append_assoc] using hundecided
        · simpa [List.append_assoc] using hwhole
      · refine .inr (.inl ⟨after, _, (b :: bs) :: pieces, piece, hreceive,
          .cons hvalue (inTime_zero timeout) hpasses, ?_, ?_⟩)
        · simpa [List.append_assoc] using hundecided
        · simpa [List.append_assoc] using hnegative
      · refine .inr (.inr ⟨stop, after, _, (b :: bs) :: pieces, later, hreceive,
          .cons hvalue (inTime_zero timeout) hpasses, ?_, hhalts⟩)
        simpa [List.append_assoc] using hundecided

end alike

end Stream

end ThinClient
