import ThinClient.Proofs.Connection.Outcome

/-!
# Closes that break a connection without a word

The deferred closes pass a failure of the exchange of frames on to the caller, and only report every
other one. A refusal whose reason cannot be read is of the second kind, and yet the connection is
broken by it. Who sends more closes after that one learns of it from the next, which is refused.

* `Response.Garbled` is a response frame that refuses a request for a reason that cannot be read,
  and `roundTrip_garbled` says that nothing else breaks a connection without being a failure of the
  exchange of frames.
* `Breaks` says which of the deferred closes breaks the connection.
* `closePending_ok_iff`: **a connection that was ready is broken after deferred closes that have all
  gone through if and only if the last of them has broken it so**. Whichever other one breaks it,
  and however the last one does it otherwise, there is an error.
-/

namespace ThinClient

variable {σ : Type}

/-! ## Refusals that cannot be read -/

namespace Response

variable {request : RequestRef} {frame : Bytes} {e : Error}

/-- The frame refuses the request, and the reason that it gives cannot be read. -/
structure Garbled (request : RequestRef) (frame : Bytes) (cause : DecodeError) : Prop where
  id_eq : id? frame = some request.id
  status_ne : status frame ≠ 0
  explanation_eq : explanation (frame.drop headerLength) = .error cause

/-- A frame that makes a connection unusable, although a whole response for the request came. -/
theorem garbled_of_ofFrame (h : ofFrame request frame = .error e) (hfatal : e.isFatal = true)
    (hown : e.isConnectionError = false) :
    ∃ cause, e = { kind := .decode cause } ∧ Garbled request frame cause := by
  cases hid : id? frame with
  | none =>
    rw [ofFrame_of_short hid] at h
    cases h
    cases hown
  | some found =>
    by_cases hother : found ≠ request.id
    · rw [ofFrame_of_other hid hother] at h
      cases h
      cases hown
    · obtain rfl : found = request.id := Decidable.not_not.mp hother
      rw [ofFrame_of_id hid, if_neg hother] at h
      split at h
      next => cases h
      next hstatus =>
        cases hreason : explanation (frame.drop headerLength) with
        | ok text =>
          rw [hreason] at h
          cases h
          cases hfatal
        | error cause =>
          rw [hreason] at h
          cases h
          exact ⟨cause, rfl, hid, hstatus, hreason⟩

end Response

namespace Connection

variable [Peer σ] {client middle broken after : Client σ} {request : Request} {e : Error}
  {resource : Int64}

/-- A round trip that breaks the connection, and not because the exchange of frames failed. -/
theorem roundTrip_garbled (h : roundTrip request client = .error (.failed e) after)
    (hfatal : e.isFatal = true) (hown : e.isConnectionError = false) :
    ∃ frame cause, client.connection.answer? request = some frame ∧
      Response.Garbled request.ref frame cause ∧ e = ⟨.decode cause, some request.ref⟩ := by
  rw [roundTrip_eq] at h
  cases hpassage : client.connection.passage request with
  | refused =>
    rw [hpassage] at h
    cases h
    cases hown
  | unwritable cause =>
    rw [hpassage] at h
    cases h
    cases hfatal
  | unanswered stop stream =>
    rw [hpassage] at h
    cases stop <;> cases h
    cases hown
  | answered frame stream =>
    rw [hpassage] at h
    dsimp only at h
    cases hresponse : Response.ofFrame request.ref frame with
    | ok response =>
      rw [hresponse] at h
      cases h
    | error e' =>
      rw [hresponse] at h
      cases h
      obtain ⟨cause, rfl, hgarbled⟩ := Response.garbled_of_ofFrame hresponse hfatal hown
      exact ⟨frame, cause, by simp only [answer?, hpassage], hgarbled, rfl⟩

theorem roundTrip_of_closeResource (h : closeResource resource client = .error (.failed e) after) :
    roundTrip (closeRequest client resource) (tookId client) = .error (.failed e) after := by
  rw [closeResource_eq, map_apply] at h
  split at h
  next => cases h
  next stop after' hround =>
    cases h
    exact hround

/-! ## Closes one after the other -/

/-- The closes behind others are sent once those have gone through. -/
theorem closeEach_append (first second : List Int64) (client : Client σ) :
    closeEach (first ++ second) client =
      (closeEach first >>= fun _ => closeEach second) client := by
  induction first generalizing client with
  | nil => rfl
  | cons resource first ih =>
    rw [List.cons_append, bind_apply]
    cases hclose : closeResource resource client with
    | ok _ middle =>
      rw [closeEach_of_ok hclose, closeEach_of_ok hclose, ih, bind_apply]
    | error stop middle =>
      cases stop with
      | cancelled => rw [closeEach_of_cancelled hclose, closeEach_of_cancelled hclose]
      | failed e =>
        rw [closeEach_of_failed hclose, closeEach_of_failed hclose]
        split
        next => rfl
        next => rw [ih, bind_apply]

/-- A failed call leaves a connection broken that cannot be used, not in flight. -/
theorem phase_of_closeResource (h : closeResource resource client = .error (.failed e) after)
    (hbroken : after.connection.isBroken = true) : after.connection.phase = .broken := by
  have htruthful := closeResource_truthful resource client
  rw [h] at htruthful
  simp only [Truthful] at htruthful
  simp only [isBroken, ne_eq, decide_not, Bool.not_eq_true', decide_eq_false_iff_not] at hbroken
  cases hphase : after.connection.phase with
  | ready => exact absurd hphase hbroken
  | inFlight => exact absurd hphase htruthful
  | broken => rfl

/-- A broken connection refuses a close in its own name. -/
theorem closeResource_of_broken (h : client.connection.phase = .broken) (resource : Int64) :
    closeResource resource client = .error
      (.failed ⟨.transport .broken, some (closeRequest client resource).ref⟩) (tookId client) := by
  have htook : (tookId client).connection.phase = .broken := h
  rw [closeResource_eq, map_apply, roundTrip]
  simp only [htook]
  rfl

/-- The client with the report of a close that has failed. -/
def noted (client : Client σ) (resource : Int64) (e : Error) : Client σ :=
  { client with journal := client.journal.add (.closeFailed resource e) }

/-- One of the deferred closes breaks the connection: those before it have gone through, and the
connection was ready then. -/
structure Breaks (client : Client σ) (before : List Int64) (resource : Int64) (rest : List Int64)
    (middle : Client σ) (e : Error) (broken : Client σ) : Prop where
  pendingClose_eq : client.connection.pendingClose = before ++ resource :: rest
  before_ok : closeEach before (tookPending client) = .ok () middle
  ready : middle.connection.phase = .ready
  failed : closeResource resource middle = .error (.failed e) broken
  isBroken : broken.connection.isBroken = true

namespace Breaks

variable {before rest : List Int64}

/-- After the close that breaks the connection the others follow, if its failure is only
reported. -/
theorem closePending_eq (h : Breaks client before resource rest middle e broken) :
    closePending client =
      if e.isConnectionError then .error (.failed e) broken
      else closeEach rest (noted broken resource e) := by
  rw [Connection.closePending_eq, h.pendingClose_eq, closeEach_append, bind_apply, h.before_ok]
  exact closeEach_of_failed h.failed

/-- Such a close has been answered, and the reason of the refusal cannot be read. -/
theorem garbled (h : Breaks client before resource rest middle e broken)
    (hown : e.isConnectionError = false) :
    ∃ frame cause, (tookId middle).connection.answer? (closeRequest middle resource) = some frame ∧
      Response.Garbled (closeRequest middle resource).ref frame cause ∧
      e = ⟨.decode cause, some (closeRequest middle resource).ref⟩ := by
  have hcandid := closeResource_candid resource middle
  rw [h.failed] at hcandid
  exact roundTrip_garbled (roundTrip_of_closeResource h.failed) (hcandid.mp h.isBroken) hown

/-- The next close is refused, and nothing behind it is sent. -/
theorem closePending_of_next {next : Int64} {more : List Int64}
    (h : Breaks client before resource (next :: more) middle e broken)
    (hown : e.isConnectionError = false) :
    closePending client = .error
      (.failed ⟨.transport .broken, some (closeRequest broken next).ref⟩)
      (tookId (noted broken resource e)) := by
  have hphase : broken.connection.phase = .broken := phase_of_closeResource h.failed h.isBroken
  have hbroken : (noted broken resource e).connection.phase = .broken := hphase
  rw [h.closePending_eq, if_neg (by simp [hown]), closeEach_of_failed
    (closeResource_of_broken hbroken next)]
  rfl

end Breaks

/-- No close goes through on a connection that is not ready. -/
theorem ready_of_closeEach_cons {rest : List Int64}
    (h : closeEach (resource :: rest) client = .ok () after) :
    client.connection.phase = .ready := by
  refine Decidable.byContradiction fun hphase => ?_
  have hisBroken : client.connection.isBroken = true := by simp [isBroken, hphase]
  obtain ⟨request, refused, hrefused, -⟩ := closeEach_refused hisBroken resource rest
  rw [hrefused] at h
  cases h

/-- A close that goes through and leaves the connection broken has failed without a word. -/
theorem closeResource_of_closeEach (h : closeEach [resource] client = .ok () after)
    (hbroken : after.connection.phase ≠ .ready) :
    ∃ e broken, closeResource resource client = .error (.failed e) broken ∧
      broken.connection.isBroken = true ∧ e.isConnectionError = false := by
  have hcandid := closeResource_candid resource client
  cases hclose : closeResource resource client with
  | ok _ closed =>
    rw [closeEach_of_ok hclose] at h
    cases h
    rw [hclose] at hcandid
    exact absurd hcandid hbroken
  | error stop closed =>
    cases stop with
    | cancelled =>
      rw [closeEach_of_cancelled hclose] at h
      cases h
    | failed e =>
      rw [closeEach_of_failed hclose] at h
      split at h
      next => cases h
      next hown =>
        cases h
        exact ⟨e, closed, rfl, by simpa [isBroken] using hbroken, by simpa using hown⟩

/-- Closes that have gone through have left the connection ready, or the last one has broken it. -/
theorem breaks_of_closePending (hready : client.connection.phase = .ready)
    (h : closePending client = .ok () after) (hbroken : after.connection.phase ≠ .ready) :
    ∃ before last middle e broken, Breaks client before last [] middle e broken ∧
      e.isConnectionError = false := by
  rw [Connection.closePending_eq] at h
  rcases List.eq_nil_or_concat client.connection.pendingClose with hnil | ⟨before, last, hlast⟩
  · rw [hnil] at h
    cases h
    exact absurd hready hbroken
  rw [List.concat_eq_append] at hlast
  rw [hlast, closeEach_append, bind_apply] at h
  cases hbefore : closeEach before (tookPending client) with
  | error stop middle =>
    rw [hbefore] at h
    cases h
  | ok _ middle =>
    rw [hbefore] at h
    have hmiddle : middle.connection.phase = .ready := ready_of_closeEach_cons h
    obtain ⟨e, broken, hclose, hisBroken, hown⟩ := closeResource_of_closeEach h hbroken
    exact ⟨before, last, middle, e, broken, ⟨hlast, hbefore, hmiddle, hclose, hisBroken⟩, hown⟩

/-- **A connection that was ready is broken after deferred closes without an error if and only if
the last of them was refused for a reason that cannot be read.** There is a report of that, and it
tells nobody that the connection is lost. Every other way in which a deferred close breaks the
connection ends in an error: its own one if the exchange of frames failed, whichever close it was,
and that of the next close, which the broken connection refuses, if there is one. -/
theorem closePending_ok_iff (hready : client.connection.phase = .ready) :
    ((∃ after, closePending client = .ok () after ∧ after.connection.phase ≠ .ready) ↔
        ∃ before last middle e broken, Breaks client before last [] middle e broken ∧
          e.isConnectionError = false) ∧
      ∀ before resource rest middle e broken,
        Breaks client before resource rest middle e broken →
        (e.isConnectionError = true → closePending client = .error (.failed e) broken) ∧
        (e.isConnectionError = false →
          (∃ frame cause,
            (tookId middle).connection.answer? (closeRequest middle resource) = some frame ∧
            Response.Garbled (closeRequest middle resource).ref frame cause ∧
            e = ⟨.decode cause, some (closeRequest middle resource).ref⟩) ∧
          (rest = [] → closePending client = .ok () (noted broken resource e)) ∧
          ∀ next more, rest = next :: more → closePending client = .error
            (.failed ⟨.transport .broken, some (closeRequest broken next).ref⟩)
            (tookId (noted broken resource e))) := by
  have hlast {before rest : List Int64} {resource : Int64} {middle broken : Client σ} {e : Error}
      (h : Breaks client before resource rest middle e broken)
      (hown : e.isConnectionError = false) (hrest : rest = []) :
      closePending client = .ok () (noted broken resource e) := by
    rw [h.closePending_eq, if_neg (by simp [hown]), hrest]
    rfl
  refine ⟨⟨?_, ?_⟩, fun before resource rest middle e broken h => ⟨fun hconnection => ?_, ?_⟩⟩
  · rintro ⟨after, hclose, hbroken⟩
    exact breaks_of_closePending hready hclose hbroken
  · rintro ⟨before, last, middle, e, broken, h, hown⟩
    have hphase : broken.connection.phase ≠ .ready := by simpa [isBroken] using h.isBroken
    exact ⟨noted broken last e, hlast h hown rfl, hphase⟩
  · rw [h.closePending_eq, if_pos hconnection]
  · refine fun hown => ⟨h.garbled hown, hlast h hown, ?_⟩
    rintro next more rfl
    exact h.closePending_of_next hown

open Client

theorem ready_closeUnreadable : closeUnreadable.connection.phase = .ready := by
  cbv

theorem closePending_closeUnreadable :
    closePending closeUnreadable = .ok () (closeUnreadable.after closePending) := by
  cbv

theorem broken_closeUnreadable :
    (closeUnreadable.after closePending).connection.phase = .broken := by
  cbv

/-- The only deferred close of this client breaks the connection so. -/
theorem closePending_ok_iff_closeUnreadable :
    closeUnreadable.connection.phase = .ready ∧ ∃ before last middle e broken,
      Breaks closeUnreadable before last [] middle e broken ∧ e.isConnectionError = false := by
  refine ⟨ready_closeUnreadable, (closePending_ok_iff ready_closeUnreadable).1.mp
    ⟨_, closePending_closeUnreadable, ?_⟩⟩
  rw [broken_closeUnreadable]
  decide

/-- A connection that a server has opened is ready, all its deferred closes go through, and it is
broken. -/
theorem closePending_breaks :
    closeUnreadable.Reachable ∧ closeUnreadable.connection.phase = .ready ∧
      ∃ after, closePending closeUnreadable = .ok () after ∧ after.connection.phase = .broken := by
  have hopen : establish .default (answering [42] 1) =
      .ok { closeUnreadable.connection with pendingClose := [] }
        closeUnreadable.connection.stream := by cbv
  exact ⟨reachable_holding hopen, ready_closeUnreadable, _, closePending_closeUnreadable,
    broken_closeUnreadable⟩

end Connection

end ThinClient
