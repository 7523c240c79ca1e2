import ThinClient.Proofs.Connection.Opening

/-!
# Deferred closes are sent once, in order, and before the next request

What is deferred waits in a queue, and the next call that sends anything takes the whole queue. As
long as the connection is ready, nothing that was taken is lost on the way, whatever the server
answers to the closes before it.

* `Connection.accepted` are the octets that the other end has accepted, and `Connection.Sent` says
  that the requests of some trips, and nothing else, have been accepted until the connection is
  ready again. `trip_sent` is one request, `closeTrips_sent` the deferred closes by induction,
  `Exchange.trips_sent` a call.
* `run_deferred` is about whole runs: **what was deferred is what was sent as a close, in order, and
  then what still waits**.
-/

namespace ThinClient

variable {σ : Type}

/-! ## What is sent -/

/-- The octets that are sent for a request, if it is sent. -/
def Request.octets (r : Request) : Bytes :=
  match r.frame with
  | .ok octets => octets
  | .error _ => []

namespace Connection

/-- The octets that the other end has accepted so far. -/
def accepted (c : Connection (Recorded σ)) : Bytes :=
  acceptedIn c.stream.peer.dealings

/-- The connection is ready, and all that was to be sent has been. -/
structure AtRest (c : Connection σ) : Prop where
  ready : c.phase = .ready
  unsent : c.stream.unsent = []

/-- Until the connection is at rest again, the requests of some trips have been sent, and nothing
else. -/
structure Sent (c : Connection (Recorded σ)) (trips : List Trip) (after : Connection (Recorded σ)) :
    Prop where
  atRest : after.AtRest
  accepted : after.accepted = c.accepted ++ trips.flatMap (·.request.octets)

namespace Sent

variable {c middle after : Connection (Recorded σ)} {first second : List Trip}

theorem nil (h : c.AtRest) : Sent c [] c := ⟨h, (List.append_nil _).symm⟩

theorem append (h : Sent c first middle) (h' : Sent middle second after) :
    Sent c (first ++ second) after := by
  refine ⟨h'.atRest, ?_⟩
  rw [h'.accepted, h.accepted, List.flatMap_append, List.append_assoc]

theorem cons {trip : Trip} (h : Sent c [trip] middle) (h' : Sent middle second after) :
    Sent c (trip :: second) after :=
  h.append h'

end Sent

variable [Peer σ] {client : Client (Recorded σ)}

/-- A request after which the connection is ready has been sent, all of it, unless it is too long
for a frame. -/
theorem trip_sent (deferral : Option Int64) {request : Request} (h : client.connection.AtRest)
    (hready : (client.after (roundTrip request)).connection.phase = .ready) :
    Sent client.connection [trip deferral request client]
      (client.after (roundTrip request)).connection := by
  have htrip : [trip deferral request client].flatMap (·.request.octets) = request.octets :=
    List.flatMap_singleton _ _
  rcases roundTrip_ready hready with
    ⟨-, ⟨e, hframe, hafter⟩ | ⟨octets, frame, stream, hframe, hswap, hafter⟩⟩
  · rw [hafter]
    refine ⟨h, ?_⟩
    rw [htrip, Request.octets, hframe]
    exact (List.append_nil _).symm
  · obtain ⟨haccepted, hunsent⟩ := swap_ok_accepted hswap
    rw [hafter]
    refine ⟨⟨rfl, hunsent⟩, ?_⟩
    rw [htrip, Request.octets, hframe]
    refine haccepted.trans ?_
    rw [Stream.push, h.unsent]
    rfl

theorem closeTrip_sent (deferral : Option Int64) {resource : Int64}
    (h : client.connection.AtRest)
    (hready : (client.after (closeResource resource)).connection.phase = .ready) :
    Sent client.connection [closeTrip deferral resource client]
      (client.after (closeResource resource)).connection := by
  rw [after_closeResource] at hready ⊢
  have htook : (tookId client).connection.AtRest := ⟨h.ready, h.unsent⟩
  have hsent := trip_sent deferral htook hready
  exact ⟨hsent.atRest, hsent.accepted⟩

/-- Deferred closes that end with a ready connection have all been sent, in order. -/
theorem closeTrips_sent (pending : List Int64) (h : client.connection.AtRest)
    (hready : (client.after (closeEach pending)).connection.phase = .ready) :
    Sent client.connection (closeTrips pending client)
        (client.after (closeEach pending)).connection ∧
      (closeTrips pending client).filterMap (·.deferral) = pending := by
  induction pending generalizing client with
  | nil => exact ⟨.nil h, rfl⟩
  | cons resource rest ih =>
    rcases closeEach_cons resource rest client with
      ⟨next, hnext, hrun, htrips⟩ | ⟨stop, hrun, hbroken, -⟩
    · rw [Client.after_congr hrun] at hready ⊢
      have hsent := closeTrip_sent (some resource) h
        (hnext ▸ ready_of_after_closeEach hready)
      rw [← hnext] at hsent
      obtain ⟨hrest, hdeferrals⟩ := ih hsent.atRest hready
      rw [htrips, List.filterMap_cons, hdeferrals]
      exact ⟨hsent.cons hrest, rfl⟩
    · -- Closes that are dropped are dropped on a broken connection.
      rw [Client.after_of_error hrun] at hready
      simp [isBroken, hready] at hbroken

theorem pendingTrips_sent (h : client.connection.AtRest)
    (hready : (client.after closePending).connection.phase = .ready) :
    Sent client.connection (pendingTrips client) (client.after closePending).connection ∧
      (pendingTrips client).filterMap (·.deferral) = client.connection.pendingClose ∧
      (client.after closePending).connection.pendingClose = [] := by
  rw [after_closePending] at hready ⊢
  have htook : (tookPending client).connection.AtRest := ⟨h.ready, h.unsent⟩
  obtain ⟨hsent, hdeferrals⟩ := closeTrips_sent _ htook hready
  exact ⟨⟨hsent.atRest, hsent.accepted⟩, hdeferrals, after_closeEach_pendingClose _ _⟩

end Connection

/-! ## Calls -/

/-- What a call defers. -/
def Exchange.deferrals : Exchange → List Int64
  | defer resource => [resource]
  | _ => []

namespace Exchange

open Connection

variable [Peer σ] {client : Client (Recorded σ)}

/-- A call after which the connection is ready has sent what its trips say, and what it has taken
out of the queue is what it has sent a close for. -/
theorem trips_sent (exchange : Exchange) (h : client.connection.AtRest)
    (hready : (client.after exchange.perform).connection.phase = .ready) :
    Sent client.connection (exchange.trips client) (client.after exchange.perform).connection ∧
      client.connection.pendingClose ++ exchange.deferrals =
        (exchange.trips client).filterMap (·.deferral) ++
          (client.after exchange.perform).connection.pendingClose := by
  cases exchange with
  | send request =>
    rw [perform, Client.after_map] at hready ⊢
    obtain ⟨clear, hpending, hclear, hafter⟩ := sendAndReceive_ready hready
    have hclosed := Client.after_of_ok hpending
    rw [hafter] at hready ⊢
    obtain ⟨hsent, hdeferrals, hnone⟩ := pendingTrips_sent h (hclosed ▸ hclear)
    rw [hclosed] at hsent hnone
    have hlast : lastTrip request client = trip none request clear := by
      simp only [lastTrip, hpending]
    obtain ⟨stream, phase, hround⟩ := after_roundTrip request clear
    have hkept : (clear.after (roundTrip request)).connection.pendingClose = [] := by
      rw [hround]
      exact hnone
    rw [trips, hlast, List.filterMap_append, hdeferrals, hkept]
    exact ⟨hsent.append (trip_sent none hsent.atRest hready), (List.append_nil _).symm⟩
  | close resource =>
    rw [perform, Client.after_map] at hready ⊢
    rw [after_closeResource_pendingClose]
    exact ⟨closeTrip_sent none h hready, List.append_nil _⟩
  | closePending =>
    rw [perform, Client.after_map] at hready ⊢
    obtain ⟨hsent, hdeferrals, hnone⟩ := pendingTrips_sent h hready
    rw [trips, hdeferrals, hnone]
    exact ⟨hsent, rfl⟩
  | defer resource => exact ⟨⟨⟨h.ready, h.unsent⟩, (List.append_nil _).symm⟩, rfl⟩

end Exchange

/-! ## Runs -/

namespace Client

variable [Peer σ] {start : Client (Recorded σ)}

theorem run_sent (calls : List Exchange) (h : start.connection.AtRest)
    (hready : (start.run calls).connection.phase = .ready) :
    Connection.Sent start.connection (start.trips calls) (start.run calls).connection ∧
      start.connection.pendingClose ++ calls.flatMap Exchange.deferrals =
        (start.trips calls).filterMap (·.deferral) ++
          (start.run calls).connection.pendingClose := by
  induction calls generalizing start with
  | nil => exact ⟨.nil h, List.append_nil _⟩
  | cons exchange calls ih =>
    obtain ⟨hfirst, hqueue⟩ := exchange.trips_sent h (ready_of_run hready)
    obtain ⟨hrest, hrestQueue⟩ := ih hfirst.atRest hready
    refine ⟨hfirst.append hrest, ?_⟩
    rw [List.flatMap_cons, ← List.append_assoc, hqueue, List.append_assoc, hrestQueue,
      run_cons, trips, List.filterMap_append, List.append_assoc]

end Client

/-- A deferred close is a request to release the resource, short enough to be sent. -/
theorem Trip.Made.of_deferral [Peer σ] {trip : Trip} {resource : Int64} (h : trip.Made σ)
    (hdeferral : trip.deferral = some resource) :
    ∃ id, trip.request = ⟨.resourceClose, id, Word.encode resource⟩ ∧
      trip.request.frame = .ok trip.request.octets := by
  cases h with
  | asked request client => cases hdeferral
  | deferred resource client =>
    cases hdeferral
    exact ⟨_, rfl, rfl⟩
  | unsent request => cases hdeferral

/-- A connection that has just been opened has sent its handshake, and nothing waits. -/
theorem Connection.establish_atRest [Peer σ] {config : Config} {peer : σ}
    {c : Connection (Recorded σ)} {s : Stream (Recorded σ)}
    (h : establish config (untouched peer) = .ok c s) :
    c.AtRest ∧ c.pendingClose = [] ∧ c.accepted = Handshake.request config.version := by
  obtain ⟨rfl, hunsent, haccepted⟩ := establish_sent h
  exact ⟨⟨rfl, hunsent⟩, rfl, haccepted⟩

namespace Client

variable [Peer σ]

/-- **What was deferred is what has been sent as a close, in order, and then what still waits**, in
every run after which the connection is ready, whatever the server has answered. A close that was
sent is a frame of its own, all that has been sent is the frames of the trips in order, and the
frame of a request comes after the closes of all that was deferred before it.

So something leaves the queue without being sent only if the connection is not ready any more. -/
theorem run_deferred (start : Client (Recorded σ)) (hstart : start.connection.AtRest)
    (calls : List Exchange) (hready : (start.run calls).connection.phase = .ready) :
    start.connection.pendingClose ++ calls.flatMap Exchange.deferrals =
        (start.trips calls).filterMap (·.deferral) ++
          (start.run calls).connection.pendingClose ∧
      (start.run calls).connection.accepted =
        start.connection.accepted ++ (start.trips calls).flatMap (·.request.octets) ∧
      (∀ trip ∈ start.trips calls, ∀ resource, trip.deferral = some resource →
        ∃ id, trip.request = ⟨.resourceClose, id, Word.encode resource⟩ ∧
          trip.request.frame = .ok trip.request.octets) ∧
      ∀ before request after, calls = before ++ .send request :: after →
        ∃ closes answer later,
          start.trips calls = start.trips before ++ closes ++ answer :: later ∧
            answer.deferral = none ∧ answer.request = request ∧
            (start.trips before ++ closes).filterMap (·.deferral) =
              start.connection.pendingClose ++ before.flatMap Exchange.deferrals := by
  obtain ⟨hsent, hqueue⟩ := run_sent calls hstart hready
  refine ⟨hqueue, hsent.accepted, fun trip htrip resource hdeferral =>
    (start.trips_made calls trip htrip).of_deferral hdeferral, ?_⟩
  rintro before request after rfl
  -- The connection is ready at the end, so it was ready at every moment before, and the first part
  -- holds of the calls before this request as well.
  let now := start.run before
  have hrest :
      ((now.after (Exchange.send request).perform).run after).connection.phase = .ready := by
    rw [run_append] at hready
    exact hready
  have hsend := ready_of_run hrest
  rw [Exchange.perform, after_map] at hsend
  obtain ⟨clear, hpending, hclear, -⟩ := Connection.sendAndReceive_ready hsend
  have hnow : now.connection.phase = .ready := by
    rw [run_append] at hready
    exact ready_of_run hready
  obtain ⟨hbefore, hdeferrals⟩ := run_sent before hstart hnow
  obtain ⟨-, hcloses, -⟩ :=
    Connection.pendingTrips_sent hbefore.atRest (after_of_ok hpending ▸ hclear)
  refine ⟨Connection.pendingTrips now, Connection.lastTrip request now,
    (now.after (Exchange.send request).perform).trips after, ?_,
    Connection.lastTrip_deferral request now, Connection.lastTrip_request request now, ?_⟩
  · rw [trips_append, trips, Exchange.trips]
    simp only [List.append_assoc, List.singleton_append, now]
  · rw [List.filterMap_append, hcloses, hdeferrals]

/-- A connection to a server that refuses the first close it gets. -/
def deferring : Client (Recorded Rehearsal.ScriptedPeer) :=
  ⟨{ stream := { peer := { peer := { handshake := some [], replies :=
      [{ reply := .response [TypeCode.null.toByte] 1 0 }, { reply := .response [] 0 0 },
        { reply := .response [42] 0 0 }] } } },
     config := .default }, {}⟩

theorem run_deferred_refused :
    let calls := [.defer 3, .defer 4, .send ⟨.querySqlFields, 9, []⟩, .defer 5]
    (deferring.run calls).connection.phase = .ready ∧
      [3, 4, 5] = (deferring.trips calls).filterMap (·.deferral) ++ [5] ∧
      (deferring.run calls).connection.accepted =
        (deferring.trips calls).flatMap (·.request.octets) := by
  intro calls
  have hready : (deferring.run calls).connection.phase = .ready := by cbv
  have hpending : (deferring.run calls).connection.pendingClose = [5] := by cbv
  obtain ⟨hqueue, haccepted, -, -⟩ := run_deferred deferring ⟨rfl, rfl⟩ calls hready
  rw [hpending] at hqueue
  exact ⟨hready, hqueue, haccepted⟩

end Client

end ThinClient
