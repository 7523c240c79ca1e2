import ThinClient.Proofs.Connection.Broken

/-!
# Trips

A call can hand several requests to its connection: the closes that were deferred, one after the
other, and then its own. Each of them is a trip, whether it is sent or not.

* `Response.ofFrame_eq_ok_iff` and its kin say what a response frame has to be.
* `Connection.passage` says how far a request comes, and `roundTrip_eq` that a round trip is what
  follows from it. `roundTrip_ready` is what has happened if the connection is ready after it.
* `Trip` is a request with the frame that was taken as its answer and the response that was given
  for it; `Exchange.trips` are those of a call, `Client.trips` those of a run, and `Trip.Made` says
  in which ways they come about.
* `closeEach_cons` is one step through the deferred closes: they go on, or the connection is broken.
-/

namespace ThinClient

/-! ## Response frames -/

namespace Response

/-- The correlation id in a response frame, if it is long enough to be one. -/
def id? (frame : Bytes) : Option Int64 :=
  if frame.length < headerLength then none else some (Word.decode Int64 (frame.take 8))

/-- The status in a response frame. -/
def status (frame : Bytes) : Int32 :=
  Word.decode Int32 ((frame.drop 8).take 4)

variable {request : RequestRef} {frame : Bytes} {response : Response} {found : Int64}

theorem ofFrame_of_short (h : id? frame = none) :
    ofFrame request frame = .error (TransportError.malformedFrame .shortResponse) := by
  have hshort : frame.length < headerLength := by
    unfold id? at h
    split at h
    next hshort => exact hshort
    next => cases h
  rw [ofFrame, if_pos hshort]

theorem ofFrame_of_id (h : id? frame = some found) :
    ofFrame request frame =
      if found ≠ request.id then .error (TransportError.correlationMismatch request.id found)
      else if status frame = 0 then .ok ⟨request.op, request.id, frame.drop headerLength⟩
      else
        match explanation (frame.drop headerLength) with
        | .ok text =>
          .error ({ request, status := status frame, explanation := text } : ApplicationError)
        | .error e => .error e := by
  unfold id? at h
  split at h
  next => cases h
  next hlong =>
    cases h
    rw [ofFrame, if_neg hlong]
    rfl

theorem ofFrame_of_other (h : id? frame = some found) (hother : found ≠ request.id) :
    ofFrame request frame = .error (TransportError.correlationMismatch request.id found) := by
  rw [ofFrame_of_id h, if_pos hother]

/-- A frame is a response exactly if it holds the id of the request and the status of success. -/
theorem ofFrame_eq_ok_iff :
    ofFrame request frame = .ok response ↔ id? frame = some request.id ∧ status frame = 0 ∧
      response = ⟨request.op, request.id, frame.drop headerLength⟩ := by
  cases hid : id? frame with
  | none =>
    rw [ofFrame_of_short hid]
    simp
  | some found =>
    rw [ofFrame_of_id hid]
    by_cases hother : found ≠ request.id
    · simp [hother]
    · obtain rfl : found = request.id := Decidable.not_not.mp hother
      by_cases hstatus : status frame = 0
      · simp [hstatus, eq_comm]
      · simp only [ne_eq, not_true_eq_false, if_false, hstatus, false_and, and_false, iff_false]
        split <;> simp

end Response

variable {σ : Type}

/-! ## How far a request comes -/

/-- How far a request comes on a connection. -/
inductive Passage (σ : Type) where
  /-- The connection is broken. -/
  | refused
  /-- The request is too long for a frame. -/
  | unwritable (error : EncodeError)
  /-- No frame was taken as its answer. -/
  | unanswered (stop : Stop TransportError) (stream : Stream σ)
  | answered (frame : Bytes) (stream : Stream σ)

namespace Connection

/-- Sends what is unsent and takes the next frame, in the time set for both. -/
def swap [Peer σ] (timeout : Option Nat) : Stream.Call σ Bytes :=
  Stream.within timeout do
    Stream.flush
    Stream.receiveFrame

/-- How far a request comes. -/
def passage [Peer σ] (c : Connection σ) (request : Request) : Passage σ :=
  if c.isBroken then .refused
  else
    match request.frame with
    | .error e => .unwritable e
    | .ok octets =>
      match swap c.config.timeout (c.stream.push octets) with
      | .ok frame stream => .answered frame stream
      | .error stop stream => .unanswered stop stream

/-- The frame that is taken as the answer to a request, if it comes so far. -/
def answer? [Peer σ] (c : Connection σ) (request : Request) : Option Bytes :=
  match c.passage request with
  | .answered frame _ => some frame
  | _ => none

variable [Peer σ] {client : Client σ} {request : Request}

theorem exchange_eq (timeout : Option Nat) (request : RequestRef) (s : Stream σ) :
    exchange timeout request s =
      match swap timeout s with
      | .ok frame s =>
        match Response.ofFrame request frame with
        | .ok response => .ok response s
        | .error e => .error (.failed e) s
      | .error (.failed e) s => .error (.failed e) s
      | .error .cancelled s => .error .cancelled s := by
  have hfold : (Stream.within timeout do Stream.flush; Stream.receiveFrame) =
      swap (σ := σ) timeout := rfl
  rw [exchange, hfold, bind_apply, onStream]
  cases swap timeout s with
  | ok frame s =>
    dsimp only
    cases Response.ofFrame request frame <;> rfl
  | error stop s => cases stop <;> rfl

/-- A frame that is taken comes after everything has been sent. -/
theorem swap_eq_ok {timeout : Option Nat} {s after : Stream σ} {frame : Bytes}
    (h : swap timeout s = .ok frame after) :
    ∃ flushed received,
      Stream.flush { s with peer := Peer.limit timeout s.peer } = .ok () flushed ∧
      flushed.receiveFrame = .ok frame received ∧
      after = { received with peer := Peer.limit none received.peer } := by
  unfold swap Stream.within at h
  simp only [bind, EStateM.bind] at h
  split at h
  next found received hinner =>
    cases h
    split at hinner
    next _ flushed hflush => exact ⟨flushed, received, hflush, hinner, rfl⟩
    next => cases hinner
  next => cases h

theorem swap_of_shakeHands {config : Config} {s after : Stream σ}
    (h : shakeHands config s = .ok () after) :
    ∃ frame, swap config.timeout (s.push (Handshake.request config.version)) = .ok frame after := by
  have hfold : (Stream.within config.timeout do Stream.flush; Stream.receiveFrame) =
      swap (σ := σ) config.timeout := rfl
  rw [shakeHands, hfold, bind_apply] at h
  change (onStream (swap config.timeout) >>= _) (s.push (Handshake.request config.version)) = _ at h
  rw [bind_apply, onStream] at h
  cases hswap : swap config.timeout (s.push (Handshake.request config.version)) with
  | ok frame received =>
    rw [hswap] at h
    cases hanswer : Handshake.ofFrame config.version frame with
    | ok _ =>
      simp only [hanswer] at h
      cases h
      exact ⟨frame, rfl⟩
    | error e =>
      simp only [hanswer] at h
      cases h
  | error stop received =>
    rw [hswap] at h
    cases stop <;> cases h

theorem roundTrip_eq (request : Request) (client : Client σ) :
    roundTrip request client =
      match client.connection.passage request with
      | .refused =>
        .error (.failed (Error.withRequest client.connection.refusal request.ref))
          (client.withConnection { client.connection with phase := .broken })
      | .unwritable e => .error (.failed (Error.withRequest e request.ref)) client
      | .unanswered (.failed e) stream =>
        .error (.failed (Error.withRequest e request.ref))
          (client.withConnection (client.connection.failed stream e))
      | .unanswered .cancelled stream =>
        .error .cancelled (client.withConnection (client.connection.abandoned stream))
      | .answered frame stream =>
        match Response.ofFrame request.ref frame with
        | .ok response => .ok response (client.withConnection (client.connection.answered stream))
        | .error e =>
          .error (.failed (e.withRequest request.ref))
            (client.withConnection (client.connection.failed stream e)) := by
  obtain ⟨⟨stream, config, ids, phase, pending⟩, journal⟩ := client
  cases phase with
  | inFlight => rfl
  | broken => rfl
  | ready =>
    simp only [roundTrip, passage, isBroken, exchange_eq]
    cases hframe : request.frame with
    | error e => rfl
    | ok octets =>
      dsimp only
      cases hswap : swap config.timeout (stream.push octets) with
      | ok frame after =>
        dsimp only
        cases hresponse : Response.ofFrame request.ref frame <;> simp [hresponse]
      | error stop after => cases stop <;> simp

/-- A round trip changes the stream and the phase of its connection only. -/
theorem after_roundTrip (request : Request) (client : Client σ) :
    ∃ stream phase, client.after (roundTrip request) =
      client.withConnection { client.connection with stream, phase } := by
  unfold Client.after
  rw [roundTrip_eq]
  cases client.connection.passage request with
  | refused => exact ⟨_, _, rfl⟩
  | unwritable e => exact ⟨_, _, rfl⟩
  | unanswered stop stream => cases stop <;> exact ⟨_, _, rfl⟩
  | answered frame stream =>
    dsimp only
    cases Response.ofFrame request.ref frame <;> exact ⟨_, _, rfl⟩

theorem isFatal_of_isConnectionError {e : Error} (h : e.isConnectionError = true) :
    e.isFatal = true := by
  obtain ⟨kind, context⟩ := e
  cases kind <;> first | rfl | cases h

omit [Peer σ] in
theorem failed_isBroken_iff (c : Connection σ) (stream : Stream σ) {e : Error} :
    (c.failed stream e).isBroken = true ↔ e.isFatal = true := by
  cases h : e.isFatal <;> simp [failed, isBroken, h]

/-- A failure after which the connection must not be used leaves it broken. -/
theorem roundTrip_fatal {e : Error} {after : Client σ}
    (h : roundTrip request client = .error (.failed e) after) (he : e.isFatal = true) :
    after.connection.isBroken = true := by
  rw [roundTrip_eq] at h
  split at h
  next =>
    cases h
    rfl
  next =>
    cases h
    cases he
  next e' stream =>
    cases h
    exact (failed_isBroken_iff _ _).mpr rfl
  next => cases h
  next frame stream =>
    split at h
    next => cases h
    next e' _ =>
      cases h
      exact (failed_isBroken_iff _ _).mpr he

section Passage

variable {c : Connection σ}

theorem frame_of_unwritable {e : EncodeError} (h : c.passage request = .unwritable e) :
    c.phase = .ready ∧ request.frame = .error e := by
  unfold passage at h
  split at h
  next => cases h
  next hphase =>
    split at h
    next e' hframe =>
      cases h
      exact ⟨by simpa [isBroken] using hphase, hframe⟩
    next => split at h <;> cases h

theorem swap_of_answered {frame : Bytes} {stream : Stream σ}
    (h : c.passage request = .answered frame stream) :
    c.phase = .ready ∧ ∃ octets, request.frame = .ok octets ∧
      swap c.config.timeout (c.stream.push octets) = .ok frame stream := by
  unfold passage at h
  split at h
  next => cases h
  next hphase =>
    split at h
    next => cases h
    next octets hframe =>
      split at h
      next found stream' hswap =>
        cases h
        exact ⟨by simpa [isBroken] using hphase, octets, hframe, hswap⟩
      next => cases h

end Passage

/-- **What a round trip after which the connection is ready has done**: the request was too long for
a frame and nothing has happened, or it was sent and a frame was taken as its answer. -/
theorem roundTrip_ready (h : (client.after (roundTrip request)).connection.phase = .ready) :
    client.connection.phase = .ready ∧
      ((∃ e, request.frame = .error e ∧ client.after (roundTrip request) = client) ∨
        ∃ octets frame stream, request.frame = .ok octets ∧
          swap client.connection.config.timeout (client.connection.stream.push octets) =
            .ok frame stream ∧
          client.after (roundTrip request) =
            client.withConnection { client.connection with stream, phase := .ready }) := by
  unfold Client.after at h ⊢
  rw [roundTrip_eq] at h ⊢
  cases hpassage : client.connection.passage request with
  | refused =>
    rw [hpassage] at h
    cases h
  | unwritable e =>
    obtain ⟨hphase, hframe⟩ := frame_of_unwritable hpassage
    exact ⟨hphase, .inl ⟨e, hframe, rfl⟩⟩
  | unanswered stop stream =>
    rw [hpassage] at h
    cases stop <;> cases h
  | answered frame stream =>
    obtain ⟨hphase, octets, hframe, hswap⟩ := swap_of_answered hpassage
    refine ⟨hphase, .inr ⟨octets, frame, stream, hframe, hswap, ?_⟩⟩
    rw [hpassage] at h
    dsimp only at h ⊢
    cases hresponse : Response.ofFrame request.ref frame with
    | ok response => rfl
    | error e =>
      simp only [hresponse] at h ⊢
      exact congrArg (fun phase => client.withConnection { client.connection with stream, phase }) h

theorem answer?_eq_some {frame : Bytes} (h : client.connection.answer? request = some frame) :
    ∃ stream, client.connection.passage request = .answered frame stream := by
  unfold answer? at h
  split at h
  next found stream hpassage =>
    cases h
    exact ⟨stream, hpassage⟩
  next => cases h

/-- A round trip gives a response exactly if a frame is taken as the answer and is a response to
this request. -/
theorem roundTrip_ok_iff {response : Response} :
    (∃ after, roundTrip request client = .ok response after) ↔
      ∃ frame, client.connection.answer? request = some frame ∧
        Response.ofFrame request.ref frame = .ok response := by
  rw [roundTrip_eq, answer?]
  cases client.connection.passage request with
  | refused => simp
  | unwritable e => simp
  | unanswered stop stream => cases stop <;> simp
  | answered frame stream =>
    cases hresponse : Response.ofFrame request.ref frame <;> simp [hresponse]

theorem roundTrip_of_answer {frame : Bytes} {e : Error}
    (h : client.connection.answer? request = some frame)
    (he : Response.ofFrame request.ref frame = .error e) :
    ∃ stream, roundTrip request client = .error (.failed (e.withRequest request.ref))
      (client.withConnection (client.connection.failed stream e)) := by
  obtain ⟨stream, hpassage⟩ := answer?_eq_some h
  refine ⟨stream, ?_⟩
  rw [roundTrip_eq, hpassage]
  simp only [he]

theorem roundTrip_cancelled {after : Client σ}
    (h : roundTrip request client = .error .cancelled after) :
    after.connection.isBroken = true := by
  have htruthful := roundTrip_truthful request client
  rw [h] at htruthful
  simp only [Truthful] at htruthful
  simp [isBroken, htruthful]

end Connection

/-! ## Trips -/

/-- A request that a connection is handed, and what comes of it. -/
structure Trip where
  /-- What was deferred, if the request is the close of that. -/
  deferral : Option Int64
  request : Request
  /-- The frame that is taken as the answer. -/
  frame : Option Bytes
  /-- The response that is given for the request. -/
  response : Option Response

namespace Trip

/-- Whether the frame that is taken as the answer carries a correlation id. -/
def carries (trip : Trip) (id : Int64) : Prop :=
  trip.frame.bind Response.id? = some id

/-- A request that is not sent because something before it failed. -/
def unsent (request : Request) : Trip :=
  { deferral := none, request, frame := none, response := none }

end Trip

namespace Connection

variable [Peer σ]

/-- The trip of a request. -/
def trip (deferral : Option Int64) (request : Request) (client : Client σ) : Trip where
  deferral
  request
  frame := client.connection.answer? request
  response :=
    match roundTrip request client with
    | .ok response _ => some response
    | .error _ _ => none

/-- The trip of a close, whose request takes the next correlation id. -/
def closeTrip (deferral : Option Int64) (resource : Int64) (client : Client σ) : Trip :=
  trip deferral (closeRequest client resource) (tookId client)

/-- The trips of `closeEach`. -/
def closeTrips : List Int64 → Client σ → List Trip
  | [], _ => []
  | resource :: rest, client =>
    closeTrip (some resource) resource client ::
      match closeResource resource client with
      | .ok () after => closeTrips rest after
      | .error (.failed e) after =>
        if e.isConnectionError then []
        else closeTrips rest { after with journal := after.journal.add (.closeFailed resource e) }
      | .error .cancelled _ => []

/-- The trips of `closePending`. -/
def pendingTrips (client : Client σ) : List Trip :=
  closeTrips client.connection.pendingClose (tookPending client)

/-- The trip of a request after the deferred closes. -/
def lastTrip (request : Request) (client : Client σ) : Trip :=
  match closePending client with
  | .ok () clear => trip none request clear
  | .error _ _ => .unsent request

end Connection

open Connection in
/-- The trips of a call, in order. -/
def Exchange.trips [Peer σ] (client : Client σ) : Exchange → List Trip
  | send request => pendingTrips client ++ [lastTrip request client]
  | close resource => [closeTrip none resource client]
  | closePending => pendingTrips client
  | defer _ => []

/-- The trips of calls one after the other. -/
def Client.trips [Peer σ] (client : Client σ) : List Exchange → List Trip
  | [] => []
  | exchange :: calls =>
    exchange.trips client ++ trips (client.after exchange.perform) calls

theorem Client.trips_singleton [Peer σ] (client : Client σ) (exchange : Exchange) :
    client.trips [exchange] = exchange.trips client :=
  List.append_nil _

/-- The trips of a run are those of its first calls and then those of the others. -/
theorem Client.trips_append [Peer σ] {client : Client σ} (first second : List Exchange) :
    client.trips (first ++ second) = client.trips first ++ (client.run first).trips second := by
  induction first generalizing client with
  | nil => rfl
  | cons exchange first ih =>
    rw [List.cons_append, Client.trips, ih, Client.trips, Client.run_cons, List.append_assoc]

namespace Connection

variable [Peer σ] {client : Client σ}

theorem lastTrip_request (request : Request) (client : Client σ) :
    (lastTrip request client).request = request := by
  unfold lastTrip
  split <;> rfl

theorem lastTrip_deferral (request : Request) (client : Client σ) :
    (lastTrip request client).deferral = none := by
  unfold lastTrip
  split <;> rfl

theorem after_closeResource (resource : Int64) (client : Client σ) :
    client.after (closeResource resource) =
      (tookId client).after (roundTrip (closeRequest client resource)) := by
  rw [← Client.after_map (fun _ => ()) (roundTrip _), Client.after, closeResource_eq]
  rfl

theorem sendAndReceive_of_pending {clear : Client σ} (h : closePending client = .ok () clear)
    (request : Request) : sendAndReceive request client = roundTrip request clear := by
  rw [sendAndReceive_eq, bind_apply, h]

theorem sendAndReceive_of_stop {stop : Stop Error} {after : Client σ}
    (h : closePending client = .error stop after) (request : Request) :
    sendAndReceive request client = .error stop after := by
  rw [sendAndReceive_eq, bind_apply, h]

/-- **One step through the deferred closes.** They go on with the next one, and something may have
been reported, or the connection is broken and none of the others is sent. -/
theorem closeEach_cons (resource : Int64) (rest : List Int64) (client : Client σ) :
    let after := client.after (closeResource resource)
    (∃ next : Client σ, next.connection = after.connection ∧
        closeEach (resource :: rest) client = closeEach rest next ∧
        closeTrips (resource :: rest) client =
          closeTrip (some resource) resource client :: closeTrips rest next) ∨
      ∃ stop, closeEach (resource :: rest) client = .error stop after ∧
        after.connection.isBroken = true ∧
        closeTrips (resource :: rest) client = [closeTrip (some resource) resource client] := by
  cases hclose : closeResource resource client with
  | ok _ after =>
    have hafter := Client.after_of_ok hclose
    refine .inl ⟨after, congrArg Client.connection hafter.symm, closeEach_of_ok hclose, ?_⟩
    simp only [closeTrips, hclose]
  | error stop after =>
    -- A close fails as its round trip does, so the connection is broken if the failure is fatal,
    -- and the failures that stop the closes are.
    have hafter := Client.after_of_error hclose
    have hround := hclose
    rw [closeResource_eq, map_apply] at hround
    split at hround
    next => cases hround
    next stop' after' hround' =>
    cases hround
    simp only [hafter, closeTrips, hclose]
    cases stop with
    | cancelled => exact .inr ⟨_, closeEach_of_cancelled hclose, roundTrip_cancelled hround', rfl⟩
    | failed e =>
      rw [closeEach_of_failed hclose]
      dsimp only
      by_cases he : e.isConnectionError = true
      · rw [if_pos he, if_pos he]
        exact .inr ⟨_, rfl, roundTrip_fatal hround' (isFatal_of_isConnectionError he), rfl⟩
      · rw [if_neg he, if_neg he]
        exact .inl ⟨{ after with journal := after.journal.add (.closeFailed resource e) },
          rfl, rfl, rfl⟩

end Connection

/-! ## How trips are made -/

open Connection in
/-- The ways in which a call makes a trip. -/
inductive Trip.Made (σ : Type) [Peer σ] : Trip → Prop
  | asked (request : Request) (client : Client σ) : Made σ (trip none request client)
  | deferred (resource : Int64) (client : Client σ) :
    Made σ (closeTrip (some resource) resource client)
  | unsent (request : Request) : Made σ (.unsent request)

open Connection in
theorem closeTrips_made [Peer σ] (pending : List Int64) (client : Client σ) :
    ∀ trip ∈ closeTrips pending client, trip.Made σ := by
  induction pending generalizing client with
  | nil => simp [closeTrips]
  | cons resource rest ih =>
    have hfirst := Trip.Made.deferred resource client
    rcases closeEach_cons resource rest client with ⟨next, -, -, htrips⟩ | ⟨stop, -, -, htrips⟩
    · rw [htrips]
      exact List.forall_mem_cons.mpr ⟨hfirst, ih next⟩
    · rw [htrips]
      exact List.forall_mem_singleton.mpr hfirst

open Connection in
theorem Exchange.trips_made [Peer σ] (exchange : Exchange) (client : Client σ) :
    ∀ trip ∈ exchange.trips client, trip.Made σ := by
  cases exchange with
  | send request =>
    refine List.forall_mem_append.mpr ⟨closeTrips_made _ _, List.forall_mem_singleton.mpr ?_⟩
    unfold lastTrip
    split
    next clear _ => exact .asked request clear
    next => exact .unsent request
  | close resource =>
    exact List.forall_mem_singleton.mpr (.asked (closeRequest client resource) (tookId client))
  | closePending => exact closeTrips_made _ _
  | defer resource => simp [trips]

theorem Client.trips_made [Peer σ] (client : Client σ) (calls : List Exchange) :
    ∀ trip ∈ client.trips calls, trip.Made σ := by
  induction calls generalizing client with
  | nil => simp [trips]
  | cons exchange calls ih =>
    exact List.forall_mem_append.mpr ⟨exchange.trips_made client, ih _⟩

/-! ## What calls leave behind -/

namespace Connection

variable [Peer σ] {client : Client σ}

/-- Closes that do not all go through leave the connection broken. -/
theorem closeEach_error {stop : Stop Error} {after : Client σ} (pending : List Int64)
    (h : closeEach pending client = .error stop after) : after.connection.isBroken = true := by
  induction pending generalizing client with
  | nil => cases h
  | cons resource rest ih =>
    rcases closeEach_cons resource rest client with ⟨next, -, hrun, -⟩ | ⟨stop', hrun, hbroken, -⟩
    · exact ih (hrun ▸ h)
    · rw [hrun] at h
      cases h
      exact hbroken

theorem after_closeResource_pendingClose (resource : Int64) (client : Client σ) :
    (client.after (closeResource resource)).connection.pendingClose =
      client.connection.pendingClose := by
  rw [after_closeResource]
  obtain ⟨stream, phase, hafter⟩ :=
    after_roundTrip (closeRequest client resource) (tookId client)
  rw [hafter]
  rfl

theorem after_closeEach_pendingClose (pending : List Int64) (client : Client σ) :
    (client.after (closeEach pending)).connection.pendingClose =
      client.connection.pendingClose := by
  induction pending generalizing client with
  | nil => rfl
  | cons resource rest ih =>
    have hclose := after_closeResource_pendingClose resource client
    rcases closeEach_cons resource rest client with ⟨next, hnext, hrun, -⟩ | ⟨stop, hrun, -, -⟩
    · rw [Client.after_congr hrun, ih, hnext, hclose]
    · rw [Client.after_of_error hrun, hclose]

theorem after_closePending (client : Client σ) :
    client.after closePending =
      (tookPending client).after (closeEach client.connection.pendingClose) := by
  rw [Client.after, closePending_eq]
  rfl

theorem ready_of_after_closeEach {pending : List Int64}
    (h : (client.after (closeEach pending)).connection.phase = .ready) :
    client.connection.phase = .ready := by
  cases pending with
  | nil => exact h
  | cons resource rest =>
    refine Decidable.byContradiction fun hphase => ?_
    have hbroken : client.connection.isBroken = true := by simp [isBroken, hphase]
    obtain ⟨request, after, hcall, hafter, -⟩ := closeEach_refused hbroken resource rest
    rw [Client.after_of_error hcall, hafter] at h
    cases h

/-- A request after which the connection is ready came after deferred closes that all went
through. -/
theorem sendAndReceive_ready {request : Request}
    (h : (client.after (sendAndReceive request)).connection.phase = .ready) :
    ∃ clear, closePending client = .ok () clear ∧ clear.connection.phase = .ready ∧
      client.after (sendAndReceive request) = clear.after (roundTrip request) := by
  cases hpending : closePending client with
  | ok _ clear =>
    have hafter := Client.after_congr (sendAndReceive_of_pending hpending request)
    rw [hafter] at h
    exact ⟨clear, rfl, (roundTrip_ready h).1, hafter⟩
  | error stop after =>
    have hbroken := closeEach_error _ (closePending_eq client ▸ hpending)
    rw [Client.after_of_error (sendAndReceive_of_stop hpending request)] at h
    simp [isBroken, h] at hbroken

end Connection

/-- A connection that is ready after a run has been ready all the time. -/
theorem Client.ready_of_run [Peer σ] {client : Client σ} {calls : List Exchange}
    (h : (client.run calls).connection.phase = .ready) : client.connection.phase = .ready := by
  refine Decidable.byContradiction fun hphase => ?_
  have hbroken : client.connection.isBroken = true := by simp [Connection.isBroken, hphase]
  have hrun := (run_isBroken hbroken calls).1
  simp [Connection.isBroken, h] at hrun

end ThinClient
