import ThinClient.Proofs.Connection.Deferral
import ThinClient.Proofs.Server.Line

/-!
# What has been sent at any moment

The other end may take a request in pieces of any size, stop in the middle of it, or never take the
rest. Of a request that has not been taken completely something is left to be sent, and it must not
get in front of another one.

* `Request.readAll` reads requests from octets, and `readAll_octets` says that it finds those that
  were written, and what there is of one that was not written completely.
* `Connection.Sends` says how far the requests of some trips have been sent: some completely, one
  perhaps in part, and the others not at all. `trip_sends` is one request, `closeTrips_sends` the
  deferred closes by induction, `Exchange.trips_sends` a call.
* `Client.run_sends` is about whole runs: **what has been accepted at any moment is a beginning of
  the handshake and the frames of the requests, in order**.
-/

namespace ThinClient

/-! ## Reading requests -/

namespace Request

variable {r : Request} {part rest : Bytes}

/-- Whether a request is short enough for a frame. -/
def fits (r : Request) : Bool :=
  r.frame.isOk

/-- Reads requests as long as whole ones are in front, and says what is left over. -/
def readAll (octets : Bytes) : List Request × Bytes :=
  match _hsplit : Frame.split octets with
  | .whole body rest =>
    if body.length < headerLength then ([], octets)
    else
      let (requests, left) := readAll rest
      (ofBody body :: requests, left)
  | _ => ([], octets)
termination_by octets.length
decreasing_by
  obtain ⟨rfl, -⟩ := Frame.split_eq_whole_iff.mp _hsplit
  have hpos := List.length_pos_iff.mpr (Frame.octets_ne_nil body)
  rw [List.length_append]
  omega

theorem octets_of_fits (h : r.fits = true) :
    r.octets = Frame.octets r.body ∧ r.body.length ≤ greatestCount := by
  unfold fits at h
  unfold Request.octets
  cases hframe : r.frame with
  | ok octets => exact frame_eq_ok hframe
  | error e =>
    rw [hframe] at h
    cases h

theorem octets_of_not_fits (h : r.fits = false) : r.octets = [] := by
  unfold fits at h
  unfold Request.octets
  cases hframe : r.frame with
  | ok octets =>
    rw [hframe] at h
    cases h
  | error e => rfl

/-- What there is of a request that is not there completely is not taken for one. -/
theorem split_of_octets (h : r.octets = part ++ rest) (hrest : rest ≠ []) :
    Frame.split part = .incomplete := by
  cases hfits : r.fits with
  | true =>
    obtain ⟨hoctets, hle⟩ := octets_of_fits hfits
    exact Frame.split_of_append hle (hoctets.symm.trans h) hrest
  | false =>
    rw [octets_of_not_fits hfits] at h
    exact absurd (List.append_eq_nil_iff.mp h.symm).2 hrest

theorem readAll_of_incomplete (h : Frame.split part = .incomplete) : readAll part = ([], part) := by
  rw [readAll]
  split
  next hwhole =>
    rw [h] at hwhole
    cases hwhole
  next => rfl

theorem readAll_octets_append (h : r.fits = true) (rest : Bytes) :
    readAll (r.octets ++ rest) = (r :: (readAll rest).1, (readAll rest).2) := by
  obtain ⟨hoctets, hle⟩ := octets_of_fits h
  have hlong : ¬ r.body.length < headerLength := by
    rw [length_body]
    omega
  have hsplit := Frame.split_octets_append hle rest
  rw [readAll, hoctets]
  split
  next body rest' hwhole =>
    rw [hsplit] at hwhole
    cases hwhole
    rw [if_neg hlong, ofBody_body]
  next hother => exact absurd hsplit (hother _ _)

/-- **What is read is what was written**: the requests that are short enough for a frame, and what
there is of the next one. -/
theorem readAll_octets (requests : List Request) (hpart : Frame.split part = .incomplete) :
    readAll (requests.flatMap Request.octets ++ part) = (requests.filter fits, part) := by
  induction requests with
  | nil => exact readAll_of_incomplete hpart
  | cons r requests ih =>
    rw [List.flatMap_cons, List.append_assoc]
    cases hfits : r.fits with
    | true => rw [readAll_octets_append hfits, ih, List.filter_cons_of_pos hfits]
    | false =>
      rw [octets_of_not_fits hfits, List.nil_append, ih, List.filter_cons_of_neg (by simp [hfits])]

end Request

variable {σ : Type}

/-! ## Round trips -/

open Connection in
/-- The trips that give a response or are refused by the server. -/
inductive Trip.Concluded (σ : Type) [Peer σ] : Trip → Prop
  | ok (deferral : Option Int64) {request : Request} {client after : Client σ}
    {response : Response} (h : roundTrip request client = .ok response after) :
    Concluded σ (trip deferral request client)
  | refused (deferral : Option Int64) {request : Request} {client after : Client σ} {e : Error}
    {cause : ApplicationError} (h : roundTrip request client = .error (.failed e) after)
    (he : e.kind = .application cause) : Concluded σ (trip deferral request client)

/-- A part has been sent of the first of some trips, or nothing of any. -/
def Trip.Begun (part : Bytes) : List Trip → Prop
  | [] => part = []
  | trip :: _ => part = [] ∨ ∃ missing, missing ≠ [] ∧ trip.request.octets = part ++ missing

namespace Trip.Begun

variable {part : Bytes} {trips : List Trip}

theorem append (h : Begun part trips) (later : List Trip) : Begun part (trips ++ later) := by
  cases trips with
  | nil =>
    cases h
    cases later with
    | nil => rfl
    | cons => exact .inl rfl
  | cons => exact h

theorem isPrefix (h : Begun part trips) : part <+: trips.flatMap (·.request.octets) := by
  cases trips with
  | nil =>
    cases h
    exact List.nil_prefix
  | cons trip trips =>
    obtain rfl | ⟨missing, -, hoctets⟩ := h
    · exact List.nil_prefix
    · rw [List.flatMap_cons, hoctets, List.append_assoc]
      exact List.prefix_append _ _

theorem split_eq (h : Begun part trips) : Frame.split part = .incomplete := by
  cases trips with
  | nil =>
    cases h
    rfl
  | cons trip trips =>
    obtain rfl | ⟨missing, hmissing, hoctets⟩ := h
    · rfl
    · exact Request.split_of_octets hoctets hmissing

end Trip.Begun

namespace Connection

/-- The requests of some trips have been sent completely, and of those of others a part. -/
structure Reaches (before : Bytes) (written waiting : List Trip) (part : Bytes)
    (c : Connection (Recorded σ)) : Prop where
  accepted_eq : c.accepted = before ++ written.flatMap (·.request.octets) ++ part
  begun : Trip.Begun part waiting
  unanswered : ∀ trip ∈ waiting, trip.frame = none
  ready : c.phase = .ready → waiting = [] ∧ c.stream.unsent = []

/-- The requests of some trips have been sent, in order, as far as they have been sent. -/
def Sends (before : Bytes) (trips : List Trip) (c : Connection (Recorded σ)) : Prop :=
  ∃ written waiting part, trips = written ++ waiting ∧ Reaches before written waiting part c

variable {before : Bytes} {trips : List Trip} {c after : Connection (Recorded σ)}

/-- Only the stream and the phase matter. -/
theorem Sends.congr (h : Sends before trips c) (hstream : after.stream = c.stream)
    (hphase : after.phase = c.phase) : Sends before trips after := by
  obtain ⟨written, waiting, part, htrips, h⟩ := h
  refine ⟨written, waiting, part, htrips, ?_, h.begun, h.unanswered, ?_⟩
  · rw [accepted, hstream]
    exact h.accepted_eq
  · rw [hstream, hphase]
    exact h.ready

/-- On a broken connection, all that comes later waits. -/
theorem Sends.refused (h : Sends before trips c) {trip : Trip} (hframe : trip.frame = none)
    (hstream : after.stream = c.stream) (hphase : after.isBroken = true) :
    Sends before (trips ++ [trip]) after := by
  obtain ⟨written, waiting, part, rfl, h⟩ := h
  refine ⟨written, waiting ++ [trip], part, List.append_assoc _ _ _, ?_, h.begun.append _, ?_, ?_⟩
  · rw [accepted, hstream]
    exact h.accepted_eq
  · exact List.forall_mem_append.mpr ⟨h.unanswered, List.forall_mem_singleton.mpr hframe⟩
  · intro hready
    simp [isBroken, hready] at hphase

/-- On a connection that is ready, all requests have been sent. -/
theorem Sends.all (h : Sends before trips c) (hready : c.phase = .ready) :
    c.accepted = before ++ trips.flatMap (·.request.octets) ∧ c.stream.unsent = [] := by
  obtain ⟨written, waiting, part, rfl, h⟩ := h
  obtain ⟨rfl, hunsent⟩ := h.ready hready
  obtain rfl : part = [] := h.begun
  exact ⟨by simpa using h.accepted_eq, hunsent⟩

/-- A request that has been sent completely. -/
theorem Sends.written (trip : Trip)
    (haccepted : after.accepted =
      before ++ trips.flatMap (·.request.octets) ++ trip.request.octets)
    (hunsent : after.phase = .ready → after.stream.unsent = []) :
    Sends before (trips ++ [trip]) after := by
  refine ⟨trips ++ [trip], [], [], (List.append_nil _).symm, ?_, rfl, by simp,
    fun h => ⟨rfl, hunsent h⟩⟩
  rw [haccepted, List.flatMap_append, List.flatMap_singleton, List.append_nil, List.append_assoc]

/-- A request of which something is left. -/
theorem Sends.cut {trip : Trip} {part missing : Bytes}
    (haccepted : after.accepted = before ++ trips.flatMap (·.request.octets) ++ part)
    (hoctets : trip.request.octets = part ++ missing) (hmissing : missing ≠ [])
    (hframe : trip.frame = none) (hbroken : after.isBroken = true) :
    Sends before (trips ++ [trip]) after := by
  refine ⟨trips, [trip], part, rfl, haccepted, .inr ⟨missing, hmissing, hoctets⟩,
    List.forall_mem_singleton.mpr hframe, fun hready => ?_⟩
  simp [isBroken, hready] at hbroken

variable [Peer σ] {client : Client (Recorded σ)} {request : Request}

/-! ## One request -/

theorem swap_of_unanswered {c : Connection σ} {stop : Stop TransportError} {stream : Stream σ}
    (h : c.passage request = .unanswered stop stream) :
    c.phase = .ready ∧ ∃ octets, request.frame = .ok octets ∧
      swap c.config.timeout (c.stream.push octets) = .error stop stream := by
  unfold passage at h
  split at h
  next => cases h
  next hphase =>
    split at h
    next => cases h
    next octets hframe =>
      split at h
      next => cases h
      next stop' stream' hswap =>
        cases h
        exact ⟨by simpa [isBroken] using hphase, octets, hframe, hswap⟩

theorem isBroken_of_refused {c : Connection σ} (h : c.passage request = .refused) :
    c.isBroken = true := by
  unfold passage at h
  split at h
  next hbroken => exact hbroken
  next =>
    split at h
    next => cases h
    next => split at h <;> cases h

theorem after_of_unanswered {client : Client σ} {stop : Stop TransportError} {stream : Stream σ}
    (h : client.connection.passage request = .unanswered stop stream) :
    (client.after (roundTrip request)).connection.stream = stream ∧
      (client.after (roundTrip request)).connection.isBroken = true := by
  unfold Client.after
  rw [roundTrip_eq, h]
  cases stop <;> exact ⟨rfl, rfl⟩

theorem after_of_answered {client : Client σ} {frame : Bytes} {stream : Stream σ}
    (h : client.connection.passage request = .answered frame stream) :
    (client.after (roundTrip request)).connection.stream = stream := by
  unfold Client.after
  rw [roundTrip_eq, h]
  dsimp only
  cases Response.ofFrame request.ref frame <;> rfl

/-- **What one request adds.** If it is refused, nothing is sent; if something of it is left, the
connection is broken; and otherwise all of it has been sent, whatever comes back. -/
theorem trip_sends (deferral : Option Int64) (request : Request)
    (h : Sends before trips client.connection) :
    Sends before (trips ++ [trip deferral request client])
      (client.after (roundTrip request)).connection := by
  have hframe : (trip deferral request client).frame = client.connection.answer? request := rfl
  unfold answer? at hframe
  cases hpassage : client.connection.passage request with
  | refused =>
    rw [hpassage] at hframe
    obtain ⟨named, after, hcall, hphase, hstream⟩ :=
      roundTrip_refused (isBroken_of_refused hpassage) request
    rw [Client.after_of_error hcall]
    exact h.refused hframe hstream (by simp [isBroken, hphase])
  | unwritable e =>
    obtain ⟨hready, hoctets⟩ := frame_of_unwritable hpassage
    obtain ⟨haccepted, hunsent⟩ := h.all hready
    have hafter : client.after (roundTrip request) = client :=
      Client.after_of_error (roundTrip_of_unwritable hready hoctets)
    have hnone : (trip deferral request client).request.octets = [] :=
      Request.octets_of_not_fits (by simp [Request.fits, trip, hoctets, Except.isOk, Except.toBool])
    rw [hafter]
    exact .written _ (by rw [haccepted, hnone, List.append_nil]) fun _ => hunsent
  | unanswered stop stream =>
    rw [hpassage] at hframe
    obtain ⟨hready, octets, hoctets, hswap⟩ := swap_of_unanswered hpassage
    obtain ⟨haccepted, hunsent⟩ := h.all hready
    obtain ⟨hstream, hbroken⟩ := after_of_unanswered hpassage
    -- Nothing was unsent before, so what is left now is left of this request alone.
    obtain ⟨part, hpart, hrest⟩ := swap_error_accepted hswap
    have hrequest : (trip deferral request client).request.octets = part ++ stream.unsent := by
      rw [← hrest, Stream.push, hunsent]
      simp [trip, Request.octets, hoctets]
    have hfar : (client.after (roundTrip request)).connection.accepted =
        before ++ trips.flatMap (·.request.octets) ++ part := by
      rw [accepted, hstream, hpart, ← haccepted]
      rfl
    by_cases hleft : stream.unsent = []
    · rw [hleft, List.append_nil] at hrequest
      exact .written _ (by rw [hfar, hrequest]) fun _ => by rw [hstream, hleft]
    · exact .cut hfar hrequest hleft hframe hbroken
  | answered frame stream =>
    obtain ⟨hready, octets, hoctets, hswap⟩ := swap_of_answered hpassage
    obtain ⟨haccepted, hunsent⟩ := h.all hready
    have hstream := after_of_answered hpassage
    obtain ⟨hall, hnone⟩ := swap_ok_accepted hswap
    have hrequest : (trip deferral request client).request.octets = octets := by
      simp [trip, Request.octets, hoctets]
    refine .written _ ?_ fun _ => by rw [hstream, hnone]
    rw [accepted, hstream, hall, hrequest, ← haccepted, Stream.push, hunsent]
    rfl

/-! ## Several requests -/

theorem closeTrip_sends (deferral : Option Int64) (resource : Int64)
    (h : Sends before trips client.connection) :
    Sends before (trips ++ [closeTrip deferral resource client])
      (client.after (closeResource resource)).connection := by
  rw [after_closeResource]
  exact trip_sends deferral _ (h.congr rfl rfl)

/-- The deferred closes, one after the other. -/
theorem closeTrips_sends (pending : List Int64) (h : Sends before trips client.connection) :
    Sends before (trips ++ closeTrips pending client)
      (client.after (closeEach pending)).connection := by
  induction pending generalizing client trips with
  | nil =>
    rw [closeTrips, List.append_nil]
    exact h
  | cons resource rest ih =>
    have hfirst := closeTrip_sends (some resource) resource h
    rcases closeEach_cons resource rest client with
      ⟨next, hnext, hrun, htrips⟩ | ⟨stop, hrun, -, htrips⟩
    · rw [← hnext] at hfirst
      rw [Client.after_congr hrun, htrips, List.append_cons]
      exact ih hfirst
    · rw [Client.after_of_error hrun, htrips]
      exact hfirst

theorem pendingTrips_sends (h : Sends before trips client.connection) :
    Sends before (trips ++ pendingTrips client) (client.after closePending).connection := by
  rw [after_closePending]
  exact closeTrips_sends _ (h.congr rfl rfl)

/-- A request after the deferred closes is not sent if these have not all gone through. -/
theorem lastTrip_sends (request : Request)
    (h : Sends before trips (client.after closePending).connection) :
    Sends before (trips ++ [lastTrip request client])
      (client.after (sendAndReceive request)).connection := by
  cases hpending : closePending client with
  | ok _ clear =>
    have hlast : lastTrip request client = trip none request clear := by
      simp only [lastTrip, hpending]
    rw [Client.after_of_ok hpending] at h
    rw [hlast, Client.after_congr (sendAndReceive_of_pending hpending request)]
    exact trip_sends none request h
  | error stop after =>
    have hlast : lastTrip request client = .unsent request := by
      simp only [lastTrip, hpending]
    rw [Client.after_of_error hpending] at h
    rw [hlast, Client.after_of_error (sendAndReceive_of_stop hpending request)]
    exact h.refused rfl rfl (closeEach_error _ (closePending_eq client ▸ hpending))

end Connection

open Connection in
theorem Exchange.trips_sends [Peer σ] {before : Bytes} {trips : List Trip}
    {client : Client (Recorded σ)} (exchange : Exchange)
    (h : Sends before trips client.connection) :
    Sends before (trips ++ exchange.trips client)
      (client.after exchange.perform).connection := by
  cases exchange with
  | send request =>
    rw [perform, Client.after_map, Exchange.trips, ← List.append_assoc]
    exact lastTrip_sends request (pendingTrips_sends h)
  | close resource =>
    rw [perform, Client.after_map]
    exact closeTrip_sends none resource h
  | closePending =>
    rw [perform, Client.after_map]
    exact pendingTrips_sends h
  | defer resource =>
    rw [Exchange.trips, List.append_nil]
    exact h.congr rfl rfl

namespace Client

variable [Peer σ]

open Connection in
theorem run_progress {before : Bytes} {trips : List Trip} {start : Client (Recorded σ)}
    (calls : List Exchange) (h : Sends before trips start.connection) :
    Sends before (trips ++ start.trips calls) (start.run calls).connection := by
  induction calls generalizing start trips with
  | nil =>
    rw [Client.trips, List.append_nil]
    exact h
  | cons exchange calls ih =>
    rw [Client.trips, run_cons, ← List.append_assoc]
    exact ih (exchange.trips_sends h)

end Client

/-! ## Runs -/

open Connection in
/-- A request that was answered, or refused by the server, came so far that a frame was taken. -/
theorem Trip.Concluded.exists_frame [Peer σ] {trip : Trip} (h : trip.Concluded σ) :
    ∃ frame, trip.frame = some frame ∧ trip.request.frame = .ok trip.request.octets := by
  have hanswered {request : Request} {client : Client σ} {deferral : Option Int64} {frame : Bytes}
      {stream : Stream σ} (h : client.connection.passage request = .answered frame stream) :
      ∃ found, (Connection.trip deferral request client).frame = some found ∧
        request.frame = .ok request.octets := by
    obtain ⟨-, octets, hoctets, -⟩ := swap_of_answered h
    refine ⟨frame, by simp [Connection.trip, answer?, h], ?_⟩
    rw [Request.octets, hoctets]
  cases h with
  | ok deferral h =>
    obtain ⟨frame, hframe, -⟩ := roundTrip_ok_iff.mp ⟨_, h⟩
    obtain ⟨stream, hpassage⟩ := answer?_eq_some hframe
    exact hanswered hpassage
  | refused deferral h he =>
    -- All other ways in which a round trip fails are no fault of the server.
    rw [roundTrip_eq] at h
    split at h
    next => cases h; cases he
    next => cases h; cases he
    next => cases h; cases he
    next => cases h
    next frame stream hpassage => exact hanswered hpassage

open Connection in
/-- **What has been accepted at any moment is a beginning of the handshake and the frames of the
requests, in order**, however the other end takes them and whenever a call is given up. Some
requests have been sent completely, of the next one there may be a part, and the connection is not
ready then; all requests that were answered, or refused by the server, are among the first. Who
reads what has been accepted finds operation, correlation id and payload of these, and that part. -/
theorem Client.run_sends [Peer σ] {config : Config} {peer : σ} {c : Connection (Recorded σ)}
    {s : Stream (Recorded σ)} (hopened : establish config (untouched peer) = .ok c s)
    (ids : IdSource) (journal : Journal) (calls : List Exchange) :
    let start : Client (Recorded σ) := ⟨{ c with ids }, journal⟩
    let trips := start.trips calls
    let dealings := (start.run calls).connection.stream.peer.dealings
    let handshake := Handshake.request config.version
    (∀ moment, moment <+: dealings →
      acceptedIn moment <+: handshake ++ trips.flatMap (·.request.octets)) ∧
    ∃ written waiting part, trips = written ++ waiting ∧
      acceptedIn dealings = handshake ++ written.flatMap (·.request.octets) ++ part ∧
      Trip.Begun part waiting ∧
      ((start.run calls).connection.phase = .ready → waiting = []) ∧
      (∀ trip ∈ trips, trip.Concluded (Recorded σ) →
        trip ∈ written ∧ trip ∉ waiting ∧ trip.request.frame = .ok trip.request.octets) ∧
      Request.readAll ((acceptedIn dealings).drop handshake.length) =
        ((written.map (·.request)).filter Request.fits, part) := by
  intro start trips dealings handshake
  obtain ⟨rfl, hunsent, haccepted⟩ := establish_sent hopened
  have hstart : Sends handshake [] start.connection :=
    ⟨[], [], [], rfl, haccepted.trans (by simp [handshake]), rfl, by simp,
      fun _ => ⟨rfl, hunsent⟩⟩
  -- The opening has left nothing behind, so the first request starts where the handshake ends.
  obtain ⟨written, waiting, part, htrips, hreaches⟩ := run_progress calls hstart
  replace htrips : trips = written ++ waiting := htrips
  have hall : acceptedIn dealings = handshake ++ written.flatMap (·.request.octets) ++ part :=
    hreaches.accepted_eq
  refine ⟨fun moment hmoment => ?_, written, waiting, part, htrips, hall, hreaches.begun,
    fun hready => (hreaches.ready hready).1, fun trip htrip hconcluded => ?_, ?_⟩
  · refine (acceptedIn_mono hmoment).trans ?_
    rw [hall, htrips, List.flatMap_append, ← List.append_assoc]
    exact (List.prefix_append_right_inj _).mpr hreaches.begun.isPrefix
  · obtain ⟨frame, hframe, hoctets⟩ := hconcluded.exists_frame
    have hnot : trip ∉ waiting := fun hwaiting => by
      rw [hreaches.unanswered trip hwaiting] at hframe
      cases hframe
    rw [htrips, List.mem_append] at htrip
    exact ⟨htrip.resolve_right hnot, hnot, hoctets⟩
  · rw [hall, List.append_assoc, List.drop_left, ← List.flatMap_map]
    exact Request.readAll_octets _ hreaches.begun.split_eq

namespace Client

open Connection

/-- A server that takes five octets at a time, and only the first six of the second request. -/
def hesitant : Rehearsal.ScriptedPeer where
  replies := [{ reply := .response [42] 0 0 }]
  writeChunk := some 5
  writeLeft := some 34

/-- The stream to this server after the handshake. -/
def greeted : Stream (Recorded Rehearsal.ScriptedPeer) :=
  (untouched hesitant).after (establish .default)

/-- A request that is answered, one that is cut off, and one that is refused. -/
def errands : List Exchange :=
  [.send ⟨.querySqlFields, 7, [1, 2]⟩, .close 5, .send ⟨.queryScan, 9, []⟩]

theorem run_sends_hesitant :
    establish .default (untouched hesitant) =
        .ok { stream := greeted, config := .default } greeted ∧
      let start : Client (Recorded Rehearsal.ScriptedPeer) :=
        ⟨{ stream := greeted, config := .default }, {}⟩
      ∃ written waiting part, start.trips errands = written ++ waiting ∧
        (written.map (·.request)).filter Request.fits = [⟨.querySqlFields, 7, [1, 2]⟩] ∧
        part = [18, 0, 0, 0, 0, 0] ∧ Trip.Begun part waiting := by
  have hopened : establish .default (untouched hesitant) =
      .ok { stream := greeted, config := .default } greeted := by cbv
  refine ⟨hopened, ?_⟩
  intro start
  obtain ⟨-, written, waiting, part, htrips, -, hbegun, -, -, hread⟩ :=
    run_sends hopened .default {} errands
  have hfound : Request.readAll
      ((acceptedIn (start.run errands).connection.stream.peer.dealings).drop
        (Handshake.request Config.default.version).length) =
      ([⟨.querySqlFields, 7, [1, 2]⟩], [18, 0, 0, 0, 0, 0]) := by cbv
  obtain ⟨hwritten, hpart⟩ := Prod.mk.inj (hread.symm.trans hfound)
  exact ⟨written, waiting, part, htrips, hwritten, hpart, hbegun⟩

end Client

end ThinClient
