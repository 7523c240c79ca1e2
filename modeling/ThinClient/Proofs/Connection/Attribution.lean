import ThinClient.Proofs.Connection.Trips

/-!
# Whose answer a frame is

A frame that a server sends says by its correlation id which request it answers, and a server may
send any frames: late ones, twice the same, ones that nobody asked for. None of them is taken for
the answer to another request.

* `Trip.Honest` is a trip that gives no response from a frame with a foreign id. All trips are
  (`Trip.Made.honest`).
* `Numbered` are ids of which no two are equal as long as the counter has not gone round.
  `closeTrips_numbered` carries this through the deferred closes, `Desk.run_numbered` through runs.
* `Desk` is a caller who begins requests and sends them later or never, in any order.
* `answers_attributed` puts both together.
-/

namespace ThinClient

variable {σ : Type}

/-! ## Frames with a foreign id -/

/-- From a frame with the id of something else the trip gives no response. -/
def Trip.Honest (trip : Trip) : Prop :=
  ∀ id, trip.carries id → id ≠ trip.request.id → trip.response = none

theorem Trip.Made.honest [Peer σ] {trip : Trip} (h : trip.Made σ) : trip.Honest := by
  have hround (deferral : Option Int64) (request : Request) (client : Client σ) :
      (Connection.trip deferral request client).Honest := by
    intro id hcarries hother
    obtain ⟨frame, hframe, hid⟩ := Option.bind_eq_some_iff.mp hcarries
    obtain ⟨stream, hround⟩ :=
      Connection.roundTrip_of_answer hframe (Response.ofFrame_of_other hid hother)
    rw [Connection.trip, hround]
  cases h with
  | asked request client => exact hround none request client
  | deferred resource client => exact hround _ _ _
  | unsent request => exact fun _ _ _ => rfl

/-! ## Ids of their own -/

/-- How many ids there are before the counter comes round. -/
def IdSource.period : Nat := UInt64.size

theorem IdSource.default_ids_inj {m n : Nat} (hm : m < period) (hn : n < period)
    (h : IdSource.default.ids m = IdSource.default.ids n) : m = n := by
  have hofNat : Int64.ofNat m = Int64.ofNat n := Int64.add_right_inj 1 |>.mp h
  have hword : UInt64.ofNat m = UInt64.ofNat n := by
    rw [← Int64.toUInt64_ofNat', ← Int64.toUInt64_ofNat', hofNat]
  rw [← UInt64.toNat_ofNat_of_lt' hm, hword, UInt64.toNat_ofNat_of_lt' hn]

/-- Ids that have been taken from the default ones; before the counter comes round, no two of them
are equal. -/
structure Numbered (source : IdSource) (ids : List Int64) : Prop where
  default : source.ids = IdSource.default.ids
  taken : ∀ id ∈ ids, ∃ n < source.taken, id = source.ids n
  distinct : source.taken ≤ IdSource.period → ids.Nodup

namespace Numbered

variable {source : IdSource} {ids others added : List Int64}

theorem perm (h : Numbered source ids) (hperm : ids.Perm others) : Numbered source others where
  default := h.default
  taken id hid := h.taken id (hperm.mem_iff.mpr hid)
  distinct hle := hperm.nodup_iff.mp (h.distinct hle)

theorem comm (h : Numbered source (ids ++ others ++ added)) :
    Numbered source (ids ++ added ++ others) := by
  rw [List.append_assoc] at h ⊢
  exact h.perm (List.perm_append_comm.append_left ids)

/-- The next id is another one. -/
theorem next (h : Numbered source ids) : Numbered source.next.2 (ids ++ [source.next.1]) where
  default := h.default
  taken id hid := by
    rcases List.mem_append.mp hid with hold | hnew
    · obtain ⟨n, hn, rfl⟩ := h.taken id hold
      exact ⟨n, Nat.lt_succ_of_lt hn, rfl⟩
    · obtain rfl := List.mem_singleton.mp hnew
      exact ⟨source.taken, Nat.lt_succ_self _, rfl⟩
  distinct hle := by
    have hlt : source.taken < IdSource.period := hle
    have hfresh : source.next.1 ∉ ids := by
      intro hmem
      obtain ⟨n, hn, heq⟩ := h.taken _ hmem
      change source.ids source.taken = source.ids n at heq
      rw [h.default] at heq
      have := IdSource.default_ids_inj hlt (Nat.lt_trans hn hlt) heq
      omega
    refine (List.perm_append_singleton _ _).nodup_iff.mpr (List.nodup_cons.mpr ⟨hfresh, ?_⟩)
    exact h.distinct (Nat.le_of_lt hlt)

end Numbered

namespace Trip

/-- The ids of the requests. -/
def ids (trips : List Trip) : List Int64 :=
  trips.map (·.request.id)

theorem ids_append (first second : List Trip) : ids (first ++ second) = ids first ++ ids second :=
  List.map_append

end Trip

namespace Connection

variable [Peer σ] {client : Client σ} {ids : List Int64}

theorem after_roundTrip_ids (request : Request) (client : Client σ) :
    (client.after (roundTrip request)).connection.ids = client.connection.ids := by
  obtain ⟨stream, phase, hafter⟩ := after_roundTrip request client
  rw [hafter]
  rfl

theorem after_closeResource_ids (resource : Int64) (client : Client σ) :
    (client.after (closeResource resource)).connection.ids = client.connection.ids.next.2 := by
  rw [after_closeResource, after_roundTrip_ids]
  rfl

/-- Every deferred close takes an id of its own. -/
theorem closeTrips_numbered (pending : List Int64) (h : Numbered client.connection.ids ids) :
    Numbered (client.after (closeEach pending)).connection.ids
      (ids ++ Trip.ids (closeTrips pending client)) := by
  induction pending generalizing client ids with
  | nil =>
    rw [closeTrips, Trip.ids, List.map_nil, List.append_nil]
    exact h
  | cons resource rest ih =>
    have hnext : Numbered (client.after (closeResource resource)).connection.ids
        (ids ++ [client.connection.ids.next.1]) := by
      rw [after_closeResource_ids]
      exact h.next
    rcases closeEach_cons resource rest client with
      ⟨next, hsame, hrun, htrips⟩ | ⟨stop, hrun, -, htrips⟩
    · -- What was reported, if anything, leaves the ids alone.
      rw [← hsame] at hnext
      have hrest := ih hnext
      rw [List.append_assoc] at hrest
      rw [Client.after_congr hrun, htrips]
      exact hrest
    · rw [Client.after_of_error hrun, htrips]
      exact hnext

theorem pendingTrips_numbered (h : Numbered client.connection.ids ids) :
    Numbered (client.after closePending).connection.ids
      (ids ++ Trip.ids (pendingTrips client)) := by
  rw [after_closePending]
  have htook : Numbered (tookPending client).connection.ids ids := h
  exact closeTrips_numbered _ htook

theorem after_sendAndReceive_ids (request : Request) (client : Client σ) :
    (client.after (sendAndReceive request)).connection.ids =
      (client.after closePending).connection.ids := by
  unfold Client.after
  cases hpending : closePending client with
  | ok _ clear =>
    rw [sendAndReceive_of_pending hpending]
    exact after_roundTrip_ids request clear
  | error stop after => rw [sendAndReceive_of_stop hpending]

theorem ids_send (request : Request) (client : Client σ) :
    Trip.ids ((Exchange.send request).trips client) =
      Trip.ids (pendingTrips client) ++ [request.id] := by
  rw [Exchange.trips, Trip.ids_append, Trip.ids, Trip.ids, List.map_singleton, lastTrip_request]

end Connection

/-! ## Callers -/

/-- A client and the requests that it has begun and not sent yet. -/
structure Desk (σ : Type) where
  client : Client σ
  drafts : List Request := []

/-- What a caller can do: only a request that was begun can be sent, and only once. -/
inductive Errand where
  | begin (op : Operation)
  /-- Sends the draft at an index, with this payload. -/
  | send (index : Nat) (payload : Bytes)
  | close (resource : Int64)
  | closePending
  | defer (resource : Int64)

/-- The calls that an errand makes, given the drafts. -/
def Errand.calls (drafts : List Request) : Errand → List Exchange
  | begin _ => []
  | send index payload =>
    match drafts[index]? with
    | some draft => [.send (draft.append payload)]
    | none => []
  | close resource => [.close resource]
  | closePending => [.closePending]
  | defer resource => [.defer resource]

namespace Desk

open Connection

variable [Peer σ]

/-- The caller after an errand. -/
def after (desk : Desk σ) (errand : Errand) : Desk σ :=
  let client := desk.client.run (errand.calls desk.drafts)
  match errand with
  | .begin op =>
    match beginRequest op client with
    | .ok request client => { client, drafts := desk.drafts ++ [request] }
    | .error _ client => { client, drafts := desk.drafts }
  | .send index _ => { client, drafts := desk.drafts.eraseIdx index }
  | _ => { client, drafts := desk.drafts }

/-- The caller after errands one after the other. -/
def run (desk : Desk σ) (errands : List Errand) : Desk σ :=
  errands.foldl after desk

/-- The trips of errands one after the other. -/
def trips (desk : Desk σ) : List Errand → List Trip
  | [] => []
  | errand :: errands =>
    desk.client.trips (errand.calls desk.drafts) ++ (desk.after errand).trips errands

omit [Peer σ] in
/-- The ids of the drafts. -/
def draftIds (desk : Desk σ) : List Int64 :=
  desk.drafts.map (·.id)

theorem exists_of_getElem? {drafts : List Request} {index : Nat} {draft : Request}
    (h : drafts[index]? = some draft) :
    ∃ front back, drafts = front ++ draft :: back ∧ drafts.eraseIdx index = front ++ back := by
  obtain ⟨hlt, rfl⟩ := List.getElem?_eq_some_iff.mp h
  refine ⟨drafts.take index, drafts.drop (index + 1), ?_, List.eraseIdx_eq_take_drop_succ _ _⟩
  rw [← List.drop_eq_getElem_cons hlt, List.take_append_drop]

/-- An errand gives every request that it begins an id of its own. -/
theorem after_numbered {desk : Desk σ} {ids : List Int64} (errand : Errand)
    (h : Numbered desk.client.connection.ids (ids ++ desk.draftIds)) :
    Numbered (desk.after errand).client.connection.ids
      (ids ++ Trip.ids (desk.client.trips (errand.calls desk.drafts)) ++
        (desk.after errand).draftIds) := by
  have hpending := pendingTrips_numbered h
  cases errand with
  | begin op =>
    have hdrafts : (desk.after (.begin op)).draftIds =
        desk.draftIds ++ [desk.client.connection.ids.next.1] := List.map_append
    rw [hdrafts, Errand.calls, Client.trips, Trip.ids, List.map_nil, List.append_nil,
      ← List.append_assoc]
    exact h.next
  | send index payload =>
    cases hdraft : desk.drafts[index]? with
    | none =>
      have hsame : desk.after (.send index payload) = desk := by
        have hindex := List.eraseIdx_of_length_le (List.getElem?_eq_none_iff.mp hdraft)
        simp only [after, Errand.calls, hdraft, hindex, Client.run_nil]
      rw [hsame, Errand.calls, hdraft, Client.trips, Trip.ids, List.map_nil, List.append_nil]
      exact h
    | some draft =>
      obtain ⟨front, back, hdrafts, herase⟩ := exists_of_getElem? hdraft
      have hafter : desk.after (.send index payload) =
          { client := desk.client.after (Exchange.send (draft.append payload)).perform
            drafts := front ++ back } := by
        simp only [after, Errand.calls, hdraft, herase, Client.run_cons, Client.run_nil]
      have hids := after_sendAndReceive_ids (draft.append payload) desk.client
      rw [← Client.after_map some] at hids
      rw [hafter, Errand.calls, hdraft, Client.trips_singleton]
      -- The id of the draft is not taken anew: it moves from the drafts to the last trip.
      refine Numbered.perm (hids ▸ hpending) ?_
      rw [draftIds, hdrafts, ids_send, List.perm_iff_count]
      intro id
      simp only [draftIds, List.map_append, List.map_cons, List.count_append, List.count_cons,
        List.count_nil, Request.append]
      omega
  | close resource =>
    have hids := after_closeResource_ids resource desk.client
    rw [← Client.after_map fun _ => none] at hids
    rw [Errand.calls, Client.trips_singleton]
    exact Numbered.comm (hids ▸ h.next)
  | closePending =>
    rw [← Client.after_map fun _ => none] at hpending
    rw [Errand.calls, Client.trips_singleton]
    exact hpending.comm
  | defer resource =>
    rw [Errand.calls, Client.trips_singleton, Exchange.trips, Trip.ids, List.map_nil,
      List.append_nil]
    exact h

/-- All requests of a run have ids of their own, those that are never sent included. -/
theorem run_numbered {desk : Desk σ} {ids : List Int64} (errands : List Errand)
    (h : Numbered desk.client.connection.ids (ids ++ desk.draftIds)) :
    Numbered (desk.run errands).client.connection.ids
      (ids ++ Trip.ids (desk.trips errands) ++ (desk.run errands).draftIds) := by
  induction errands generalizing desk ids with
  | nil =>
    rw [trips, Trip.ids, List.map_nil, List.append_nil]
    exact h
  | cons errand errands ih =>
    have hrest := ih (after_numbered errand h)
    rw [List.append_assoc ids, ← Trip.ids_append] at hrest
    exact hrest

theorem trips_made (desk : Desk σ) (errands : List Errand) :
    ∀ trip ∈ desk.trips errands, trip.Made σ := by
  induction errands generalizing desk with
  | nil => simp [trips]
  | cons errand errands ih =>
    exact List.forall_mem_append.mpr ⟨Client.trips_made _ _, ih _⟩

end Desk

/-! ## Answers -/

namespace Connection

variable [Peer σ] {request : Request} {client clear : Client σ} {frame : Bytes}

theorem sendAndReceive_ok_iff_frame {response : Response} :
    (∃ after, sendAndReceive request client = .ok response after) ↔
      ∃ clear frame, closePending client = .ok () clear ∧
        clear.connection.answer? request = some frame ∧
        Response.id? frame = some request.id ∧ Response.status frame = 0 ∧
        response = ⟨request.op, request.id, frame.drop Response.headerLength⟩ := by
  constructor
  · rintro ⟨after, hcall⟩
    cases hpending : closePending client with
    | error stop left =>
      rw [sendAndReceive_of_stop hpending] at hcall
      cases hcall
    | ok _ clear =>
      rw [sendAndReceive_of_pending hpending] at hcall
      obtain ⟨frame, hframe, hresponse⟩ := roundTrip_ok_iff.mp ⟨after, hcall⟩
      exact ⟨clear, frame, rfl, hframe, Response.ofFrame_eq_ok_iff.mp hresponse⟩
  · rintro ⟨clear, frame, hpending, hframe, hresponse⟩
    rw [sendAndReceive_of_pending hpending]
    exact roundTrip_ok_iff.mpr ⟨frame, hframe, Response.ofFrame_eq_ok_iff.mpr hresponse⟩

section

variable (hclear : closePending client = .ok () clear)
  (hframe : clear.connection.answer? request = some frame)

include hclear hframe

theorem sendAndReceive_of_other {found : Int64} (hfound : Response.id? frame = some found)
    (hother : found ≠ request.id) :
    ∃ after, sendAndReceive request client = .error (.failed
        ⟨.transport (.correlationMismatch request.id found), some request.ref⟩) after ∧
      after.connection.phase = .broken := by
  obtain ⟨stream, hround⟩ := roundTrip_of_answer hframe (Response.ofFrame_of_other hfound hother)
  rw [sendAndReceive_of_pending hclear]
  exact ⟨_, hround, rfl⟩

theorem sendAndReceive_of_short (hshort : Response.id? frame = none) :
    ∃ after, sendAndReceive request client = .error (.failed
        ⟨.transport (.malformedFrame .shortResponse), some request.ref⟩) after ∧
      after.connection.phase = .broken := by
  obtain ⟨stream, hround⟩ := roundTrip_of_answer hframe (Response.ofFrame_of_short hshort)
  rw [sendAndReceive_of_pending hclear]
  exact ⟨_, hround, rfl⟩

end

end Connection

/-- In a run in which the ids do not come round, no trip gives a response from a frame with the id
of another request, sent or not. -/
theorem Desk.run_attributed [Peer σ] {start : Desk σ} {errands : List Errand}
    (hids : start.client.connection.ids = .default) (hdrafts : start.drafts = [])
    (hperiod : (start.run errands).client.connection.ids.taken ≤ IdSource.period) :
    (start.trips errands).Pairwise (fun earlier later =>
        (later.carries earlier.request.id → later.response = none) ∧
          (earlier.carries later.request.id → earlier.response = none)) ∧
      ∀ draft ∈ (start.run errands).drafts, ∀ trip ∈ start.trips errands,
        trip.carries draft.id → trip.response = none := by
  have hstart : Numbered start.client.connection.ids ([] ++ start.draftIds) := by
    rw [Desk.draftIds, hdrafts, hids]
    exact ⟨rfl, by simp, fun _ => List.nodup_nil⟩
  have hhonest trip (htrip : trip ∈ start.trips errands) : trip.Honest :=
    (start.trips_made errands trip htrip).honest
  obtain ⟨htrips, -, hapart⟩ :=
    List.nodup_append.mp ((Desk.run_numbered errands hstart).distinct hperiod)
  constructor
  · refine (List.pairwise_map.mp htrips).imp_of_mem fun hearlier hlater hne => ?_
    exact ⟨fun hcarries => hhonest _ hlater _ hcarries hne,
      fun hcarries => hhonest _ hearlier _ hcarries hne.symm⟩
  · intro draft hdraft trip htrip hcarries
    refine hhonest trip htrip _ hcarries fun heq => ?_
    exact hapart _ (List.mem_map_of_mem htrip) _ (List.mem_map_of_mem hdraft) heq.symm

open Connection in
/-- **A frame is the answer to the request whose id it carries, or to none.**

Once the deferred closes are done, a request gets a response exactly if the frame that is taken as
its answer carries its id and the status of success, and the response is the rest of this frame. A
frame with the id of something else, and one that is too short to carry an id, break the connection.

So in every run in which the ids do not come round, a frame that carries the id of any other request
gives no response: of one that came before or comes later, of a deferred close, or of one that was
never sent. -/
theorem answers_attributed [Peer σ] :
    (∀ (request : Request) (client : Client σ),
      (∀ response, (∃ after, sendAndReceive request client = .ok response after) ↔
        ∃ clear frame, closePending client = .ok () clear ∧
          clear.connection.answer? request = some frame ∧
          Response.id? frame = some request.id ∧ Response.status frame = 0 ∧
          response = ⟨request.op, request.id, frame.drop 12⟩) ∧
      ∀ clear frame, closePending client = .ok () clear →
        clear.connection.answer? request = some frame →
        (∀ found, Response.id? frame = some found → found ≠ request.id →
          ∃ after, sendAndReceive request client = .error (.failed
              ⟨.transport (.correlationMismatch request.id found), some request.ref⟩) after ∧
            after.connection.phase = .broken) ∧
        (Response.id? frame = none →
          ∃ after, sendAndReceive request client = .error (.failed
              ⟨.transport (.malformedFrame .shortResponse), some request.ref⟩) after ∧
            after.connection.phase = .broken)) ∧
    ∀ (start : Desk σ) (errands : List Errand),
      start.client.connection.ids = .default → start.drafts = [] →
      (start.run errands).client.connection.ids.taken ≤ IdSource.period →
        (start.trips errands).Pairwise (fun earlier later =>
          (later.carries earlier.request.id → later.response = none) ∧
            (earlier.carries later.request.id → earlier.response = none)) ∧
        ∀ draft ∈ (start.run errands).drafts, ∀ trip ∈ start.trips errands,
          trip.carries draft.id → trip.response = none :=
  ⟨fun _ _ => ⟨fun _ => sendAndReceive_ok_iff_frame, fun _ _ hclear hframe =>
      ⟨fun _ => sendAndReceive_of_other hclear hframe, sendAndReceive_of_short hclear hframe⟩⟩,
    fun _ _ => Desk.run_attributed⟩

/-- A response to the request with the id 1. -/
def echo : Bytes := [1, 0, 0, 0, 0, 0, 0, 0, 0, 0, 0, 0, 42]

/-- A connection to a server that answers the first request twice and no other one. -/
def echoed : Client Rehearsal.ScriptedPeer :=
  ⟨{ stream := { peer := { handshake := some [], replies :=
      [{ reply := .raw (Rehearsal.Reply.framed echo ++ Rehearsal.Reply.framed echo) }] } },
     config := .default }, {}⟩

/-- The same connection after the first request. -/
def echoedOnce : Client Rehearsal.ScriptedPeer :=
  echoed.after (Connection.sendAndReceive ⟨.querySqlFields, 1, []⟩)

open Connection in
theorem answers_attributed_echoed :
    (∃ after, sendAndReceive ⟨.querySqlFields, 1, []⟩ echoed =
        .ok ⟨.querySqlFields, 1, [42]⟩ after) ∧
      (∃ after, sendAndReceive ⟨.queryScan, 2, []⟩ echoedOnce = .error (.failed
          ⟨.transport (.correlationMismatch 2 1), some ⟨.queryScan, 2⟩⟩) after ∧
        after.connection.phase = .broken) ∧
      (Desk.trips ⟨echoed, []⟩ [.begin .querySqlFields, .begin .queryScan, .send 0 [],
        .send 0 []]).Pairwise fun earlier later =>
          (later.carries earlier.request.id → later.response = none) ∧
            (earlier.carries later.request.id → earlier.response = none) := by
  refine ⟨((answers_attributed.1 _ echoed).1 _).mpr ⟨echoed, echo, rfl, by cbv, by cbv, by cbv,
    by cbv⟩, ?_, (answers_attributed.2 ⟨echoed, []⟩ _ rfl rfl (by cbv)).1⟩
  have hclear : closePending echoedOnce = .ok () echoedOnce := closePending_nil (by cbv)
  have hframe : echoedOnce.connection.answer? ⟨.queryScan, 2, []⟩ = some echo := by cbv
  exact ((answers_attributed.1 _ echoedOnce).2 _ echo hclear hframe).1 1 (by cbv) (by decide)

end ThinClient
