import ThinClient.Proofs.Connection.Calls
import ThinClient.Rehearsal.Peer

/-!
# Broken connections

A connection that is broken stays so, and none of its calls touches its stream again. A request
that it should send is refused: with `TransportError.interrupted` if the last round trip was given
up and nothing has been refused since, with `TransportError.broken` otherwise.

* `Refused` is a call that a broken connection refuses. Round trips, closes and requests with
  deferred closes before them all are (`roundTrip_refused` and what follows it).
* `Truthful` is a call after which the phase tells whether it was given up, whatever the peer did:
  `roundTrip_truthful` for one exchange, `closeEach_truthful` by induction for several.
* `Client.run_isBroken` and `Client.run_inFlight_iff` carry both through every run, and
  `Client.run_refuses` is what they say together.
-/

namespace ThinClient

variable {σ α β : Type} {client : Client σ}

namespace Connection

/-! ## Refused calls -/

/-- How a connection that is broken refuses a request. -/
def refusal (c : Connection σ) : TransportError :=
  if c.phase = .inFlight then .interrupted else .broken

/-- A call that a broken connection refuses without touching its stream. -/
def Refused (call : Call σ α) (client : Client σ) : Prop :=
  ∃ request after,
    call client = .error (.failed ⟨.transport client.connection.refusal, some request⟩) after ∧
      after.connection.phase = .broken ∧ after.connection.stream = client.connection.stream

theorem Refused.map {call : Call σ α} (h : Refused call client) (f : α → β) :
    Refused (f <$> call) client := by
  obtain ⟨request, after, hcall, hafter⟩ := h
  refine ⟨request, after, ?_, hafter⟩
  rw [map_apply, hcall]

variable [Peer σ]

theorem roundTrip_refused (h : client.connection.isBroken = true) (request : Request) :
    Refused (roundTrip request) client := by
  cases hphase : client.connection.phase with
  | ready => simp [isBroken, hphase] at h
  | inFlight =>
    refine ⟨request.ref, client.withConnection { client.connection with phase := .broken }, ?_,
      rfl, rfl⟩
    simp only [roundTrip, hphase, refusal, if_true]
    rfl
  | broken =>
    refine ⟨request.ref, client, ?_, hphase, rfl⟩
    simp only [roundTrip, hphase, refusal]
    rfl

theorem closeResource_refused (h : client.connection.isBroken = true) (resource : Int64) :
    Refused (closeResource resource) client := by
  have htook : (tookId client).connection.isBroken = true := h
  obtain ⟨request, after, hcall, hafter⟩ :=
    (roundTrip_refused htook (closeRequest client resource)).map fun _ => ()
  exact ⟨request, after, hcall, hafter⟩

theorem closeEach_refused (h : client.connection.isBroken = true) (resource : Int64)
    (rest : List Int64) : Refused (closeEach (resource :: rest)) client := by
  obtain ⟨request, after, hcall, hafter⟩ := closeResource_refused h resource
  refine ⟨request, after, ?_, hafter⟩
  rw [closeEach_of_failed hcall]
  rfl

theorem closePending_refused (h : client.connection.isBroken = true)
    (hpending : client.connection.pendingClose ≠ []) : Refused closePending client := by
  obtain ⟨resource, rest, hcons⟩ := List.exists_cons_of_ne_nil hpending
  have htook : (tookPending client).connection.isBroken = true := h
  obtain ⟨request, after, hcall, hafter⟩ := closeEach_refused htook resource rest
  refine ⟨request, after, ?_, hafter⟩
  rw [closePending_eq, hcons, hcall]
  rfl

theorem sendAndReceive_refused (h : client.connection.isBroken = true) (request : Request) :
    Refused (sendAndReceive request) client := by
  by_cases hpending : client.connection.pendingClose = []
  · obtain ⟨request', after, hcall, hafter⟩ := roundTrip_refused h request
    refine ⟨request', after, ?_, hafter⟩
    rw [sendAndReceive_eq, bind_apply, closePending_nil hpending]
    exact hcall
  · obtain ⟨request', after, hcall, hafter⟩ := closePending_refused h hpending
    refine ⟨request', after, ?_, hafter⟩
    rw [sendAndReceive_eq, bind_apply, hcall]

/-! ## Calls that are given up -/

omit [Peer σ] in
/-- A connection is in flight after a call if and only if the call was given up. -/
def Truthful : EStateM.Result (Stop Error) (Client σ) α → Prop
  | .ok _ after | .error (.failed _) after => after.connection.phase ≠ .inFlight
  | .error .cancelled after => after.connection.phase = .inFlight

omit [Peer σ] in
theorem Refused.truthful {call : Call σ α} (h : Refused call client) : Truthful (call client) := by
  obtain ⟨request, after, hcall, hphase, -⟩ := h
  rw [hcall]
  simp [Truthful, hphase]

omit [Peer σ] in
theorem Truthful.map {call : Call σ α} (h : Truthful (call client)) (f : α → β) :
    Truthful ((f <$> call) client) := by
  rw [map_apply]
  split
  next a after hcall => rwa [hcall] at h
  next stop after hcall => cases stop <;> rwa [hcall] at h

omit [Peer σ] in
theorem Truthful.bind {call : Call σ α} {next : α → Call σ β} (h : Truthful (call client))
    (hnext : ∀ a after, after.connection.phase ≠ .inFlight → Truthful (next a after)) :
    Truthful ((call >>= next) client) := by
  rw [bind_apply]
  split
  next a after hcall =>
    rw [hcall] at h
    exact hnext a after h
  next stop after hcall => cases stop <;> rwa [hcall] at h

theorem roundTrip_truthful (request : Request) (client : Client σ) :
    Truthful (roundTrip request client) := by
  by_cases hbroken : client.connection.isBroken = true
  · exact (roundTrip_refused hbroken request).truthful
  · have hready : client.connection.phase = .ready := by simpa [isBroken] using hbroken
    unfold roundTrip
    simp only [hready]
    split
    next e hframe => simp [Truthful, Client.withConnection, hready]
    next octets hframe =>
      split
      next response stream hexchange => simp [Truthful, Client.withConnection, answered]
      next e stream hexchange =>
        simp only [Truthful, Client.withConnection, failed]
        split <;> simp
      next stream hexchange => rfl

theorem closeResource_truthful (resource : Int64) (client : Client σ) :
    Truthful (closeResource resource client) := by
  rw [closeResource_eq]
  exact (roundTrip_truthful _ _).map _

theorem closeEach_truthful (pending : List Int64) (h : client.connection.phase ≠ .inFlight) :
    Truthful (closeEach pending client) := by
  induction pending generalizing client with
  | nil => exact h
  | cons resource rest ih =>
    have hclose := closeResource_truthful resource client
    cases hcall : closeResource resource client with
    | ok _ after =>
      rw [closeEach_of_ok hcall]
      rw [hcall] at hclose
      exact ih hclose
    | error stop after =>
      rw [hcall] at hclose
      cases stop with
      | failed e =>
        rw [closeEach_of_failed hcall]
        split
        · exact hclose
        · exact ih hclose
      | cancelled =>
        rw [closeEach_of_cancelled hcall]
        exact hclose

theorem closePending_truthful (h : client.connection.phase ≠ .inFlight) :
    Truthful (closePending client) := by
  rw [closePending_eq]
  exact closeEach_truthful _ h

theorem sendAndReceive_truthful (h : client.connection.phase ≠ .inFlight) (request : Request) :
    Truthful (sendAndReceive request client) := by
  rw [sendAndReceive_eq]
  exact (closePending_truthful h).bind fun _ after _ => roundTrip_truthful request after

end Connection

/-! ## Calls of every kind -/

namespace Exchange

open Connection

variable [Peer σ] {exchange : Exchange}

theorem perform_refused (h : client.connection.isBroken = true)
    (hsends : exchange.sends client = true) : Refused exchange.perform client := by
  cases exchange with
  | send request => exact (sendAndReceive_refused h request).map _
  | close resource => exact (closeResource_refused h resource).map _
  | closePending => exact (closePending_refused h (by simpa [sends] using hsends)).map _
  | defer resource => simp [sends] at hsends

/-- A call that has nothing to send succeeds and leaves phase and stream as they are. -/
theorem perform_of_not_sends (hsends : exchange.sends client = false) :
    ∃ after, exchange.perform client = .ok none after ∧
      after.connection.phase = client.connection.phase ∧
      after.connection.stream = client.connection.stream := by
  cases exchange with
  | send request | close resource => simp [sends] at hsends
  | closePending =>
    refine ⟨client, ?_, rfl, rfl⟩
    rw [perform, map_apply, closePending_nil (by simpa [sends] using hsends)]
  | defer resource =>
    exact ⟨client.withConnection { client.connection with
      pendingClose := client.connection.pendingClose ++ [resource] }, rfl, rfl, rfl⟩

theorem perform_truthful (hsends : exchange.sends client = true) :
    Truthful (exchange.perform client) := by
  by_cases h : client.connection.phase = .inFlight
  · exact (perform_refused (by simp [isBroken, h]) hsends).truthful
  · cases exchange with
    | send request => exact (sendAndReceive_truthful h request).map _
    | close resource => exact (closeResource_truthful resource client).map _
    | closePending => exact (closePending_truthful h).map _
    | defer resource => simp [sends] at hsends

/-- After a call that had a request to send, the connection is in flight if and only if the call was
given up. -/
theorem after_inFlight_iff (hsends : exchange.sends client = true) :
    (client.after exchange.perform).connection.phase = .inFlight ↔
      exchange.isGivenUp client = true := by
  have h := perform_truthful hsends
  unfold Client.after isGivenUp
  cases hcall : exchange.perform client with
  | ok _ after =>
    rw [hcall] at h
    simpa [Truthful] using h
  | error stop after =>
    rw [hcall] at h
    cases stop with
    | failed e => simpa [Truthful] using h
    | cancelled => simpa [Truthful] using h

theorem after_of_not_sends (hsends : exchange.sends client = false) :
    (client.after exchange.perform).connection.phase = client.connection.phase ∧
      (client.after exchange.perform).connection.stream = client.connection.stream := by
  obtain ⟨after, hcall, hafter⟩ := perform_of_not_sends hsends
  unfold Client.after
  rw [hcall]
  exact hafter

/-- No call mends a broken connection or touches its stream. -/
theorem after_of_isBroken (exchange : Exchange) (h : client.connection.isBroken = true) :
    (client.after exchange.perform).connection.isBroken = true ∧
      (client.after exchange.perform).connection.stream = client.connection.stream := by
  cases hsends : exchange.sends client with
  | false =>
    obtain ⟨hphase, hstream⟩ := after_of_not_sends hsends
    exact ⟨by rwa [isBroken, hphase], hstream⟩
  | true =>
    obtain ⟨request, after, hcall, hphase, hstream⟩ := perform_refused h hsends
    unfold Client.after
    rw [hcall]
    exact ⟨by simp [isBroken, hphase], hstream⟩

end Exchange

/-! ## Runs -/

namespace Client

open Connection

variable [Peer σ]

/-- Whether the last call of a run that had a request to send was given up; `last` says so of the
calls before the run. -/
def lastGivenUp (last : Bool) (client : Client σ) : List Exchange → Bool
  | [] => last
  | exchange :: calls =>
    lastGivenUp (if exchange.sends client then exchange.isGivenUp client else last)
      (client.after exchange.perform) calls

theorem run_isBroken (h : client.connection.isBroken = true) (calls : List Exchange) :
    (client.run calls).connection.isBroken = true ∧
      (client.run calls).connection.stream = client.connection.stream := by
  induction calls generalizing client with
  | nil => exact ⟨h, rfl⟩
  | cons exchange calls ih =>
    obtain ⟨hbroken, hstream⟩ := exchange.after_of_isBroken h
    obtain ⟨hrun, hsame⟩ := ih hbroken
    exact ⟨hrun, hsame.trans hstream⟩

/-- The phase tells whether the last round trip was given up. -/
theorem run_inFlight_iff (client : Client σ) (last : Bool)
    (hlast : client.connection.phase = .inFlight ↔ last = true) (calls : List Exchange) :
    (client.run calls).connection.phase = .inFlight ↔ client.lastGivenUp last calls = true := by
  induction calls generalizing client last with
  | nil => exact hlast
  | cons exchange calls ih =>
    rw [run_cons, lastGivenUp]
    apply ih
    cases hsends : exchange.sends client with
    | true => simpa using Exchange.after_inFlight_iff hsends
    | false => simpa [(Exchange.after_of_not_sends hsends).1] using hlast

/-- **A broken connection stays broken, keeps its stream as it is and refuses every request.** The
failure is `interrupted` if the last call that had a request to send was given up, and `broken` in
every other case; a call that has nothing to send is none of those that are refused. A peer can be
one that keeps what it sees, so that an equal stream is one that was neither read nor written. -/
theorem run_refuses (start : Client σ) (hstart : start.connection.isBroken = false)
    (calls more : List Exchange) (hbroken : (start.run calls).connection.isBroken = true) :
    ((start.run calls).run more).connection.isBroken = true ∧
      ((start.run calls).run more).connection.stream = (start.run calls).connection.stream ∧
      ∀ exchange : Exchange, exchange.sends ((start.run calls).run more) = true →
        ∃ request after, exchange.perform ((start.run calls).run more) =
          .error (.failed ⟨.transport
            (if start.lastGivenUp false (calls ++ more) then .interrupted else .broken),
            some request⟩) after := by
  obtain ⟨hstays, hstream⟩ := run_isBroken hbroken more
  refine ⟨hstays, hstream, fun exchange hsends => ?_⟩
  obtain ⟨request, after, hcall, -⟩ := Exchange.perform_refused hstays hsends
  have hready : start.connection.phase = .ready := by simpa [isBroken] using hstart
  have hphase := run_inFlight_iff start false (by simp [hready]) (calls ++ more)
  rw [run_append] at hphase
  refine ⟨request, after, ?_⟩
  rw [hcall, refusal]
  by_cases hgiven : start.lastGivenUp false (calls ++ more) = true
  · rw [if_pos hgiven, if_pos (hphase.mpr hgiven)]
  · rw [if_neg hgiven, if_neg fun h => hgiven (hphase.mp h)]

/-- A connection to a server that never answers, whose caller has no patience. -/
def unanswered : Client Rehearsal.ScriptedPeer :=
  ⟨{ stream := { peer := { handshake := some [] } }, config := .default }, {}⟩

theorem run_refuses_unanswered :
    let now := (unanswered.run [.send ⟨.querySqlFields, 7, []⟩]).run [.defer 3]
    now.connection.isBroken = true ∧ ∃ request after, Exchange.closePending.perform now =
      .error (.failed ⟨.transport .interrupted, some request⟩) after := by
  obtain ⟨hbroken, -, hrefuses⟩ :=
    run_refuses unanswered rfl [.send ⟨.querySqlFields, 7, []⟩] [.defer 3] (by cbv)
  have hgiven :
      unanswered.lastGivenUp false ([.send ⟨.querySqlFields, 7, []⟩] ++ [.defer 3]) = true := by cbv
  rw [hgiven] at hrefuses
  exact ⟨hbroken, hrefuses .closePending (by cbv)⟩

end Client

end ThinClient
