import ThinClient.Proofs.Connection.Calls
import ThinClient.Proofs.Server.Answers
import ThinClient.Proofs.Stream.Frames

/-!
# A line to a server

The other end of a byte stream that never fails, never keeps a caller waiting in vain, and hands
whole frames to a server. It takes and gives octets in pieces of any size.

* `Line` is such an end, with all that was asked and answered over it.
* `Stream.Quiet` is a stream over a line between two exchanges: nothing is underway.
* `flush_line` and `receiveFrame_line` follow a request and its answer through the pieces.
* `roundTrip_line` is what an exchange comes to: the server hears the request once, whatever the
  pieces, and the client reads what the server said to it.
-/

namespace ThinClient

namespace Request

/-- A request as it is sent, without its length. -/
def body (r : Request) : Bytes :=
  Word.encode r.op.code ++ (Word.encode r.id ++ r.payload)

/-- The request that was sent so. -/
def ofBody (octets : Bytes) : Request :=
  ⟨⟨Word.decode Int16 (octets.take 2)⟩, Word.decode Int64 ((octets.drop 2).take 8), octets.drop 10⟩

theorem ofBody_body (r : Request) : ofBody r.body = r := by
  have hop : (Word.encode r.op.code).length = 2 := Word.length_encode r.op.code
  have hid : (Word.encode r.id).length = 8 := Word.length_encode r.id
  have hheader : (Word.encode r.op.code ++ Word.encode r.id).length = 10 := by
    rw [List.length_append, hop, hid]
  have hpayload : r.body.drop 10 = r.payload := by
    rw [body, ← List.append_assoc]
    exact List.drop_left' hheader
  rw [ofBody, hpayload, body, List.take_left' hop, List.drop_left' hop, List.take_left' hid,
    Word.decode_encode, Word.decode_encode]

theorem length_body (r : Request) : r.body.length = headerLength + r.payload.length := by
  have hop : (Word.encode r.op.code).length = 2 := Word.length_encode r.op.code
  have hid : (Word.encode r.id).length = 8 := Word.length_encode r.id
  rw [body, List.length_append, List.length_append, headerLength]
  omega

theorem frame_eq_ok {r : Request} {octets : Bytes} (h : r.frame = .ok octets) :
    octets = Frame.octets r.body ∧ r.body.length ≤ greatestCount := by
  obtain ⟨length, hlength, h⟩ := Except.bind_eq_ok h
  obtain ⟨hle, rfl⟩ := encodeLength_eq_ok hlength
  cases h
  rw [Frame.octets, length_body]
  exact ⟨by simp [body, Frame.lengthWidth], hle⟩

end Request

/-! ## Lines -/

/-- A line to a server, with what is underway. -/
structure Line (server : Server) where
  /-- What the server was asked and what it said. -/
  past : List Round := []
  /-- Octets of a request of which the server does not have all. -/
  accepted : Bytes := []
  /-- Octets of an answer that the client has not read. -/
  arriving : Bytes := []
  /-- How many waits there were. -/
  waits : Nat := 0
  /-- How many octets a wait moves, if there are so many; at least one. -/
  pace : Nat → Nat

namespace Line

variable {server : Server}

/-- The line after a wait. -/
def waited (l : Line server) : Line server :=
  { l with waits := l.waits + 1 }

/-- How many of some octets the next wait moves. -/
def piece (l : Line server) (octets : Bytes) : Nat :=
  min octets.length (max 1 (l.pace l.waits))

/-- The line after the server has got octets. It answers a request when it has all of it. -/
def accept (l : Line server) (octets : Bytes) : Line server :=
  match Frame.split (l.accepted ++ octets) with
  | .whole body rest =>
    let request := Request.ofBody body
    let answer := server.answer l.past request
    { l with
      past := l.past ++ [⟨request, answer⟩], accepted := rest
      arriving := l.arriving ++ Frame.octets (answer.body request) }
  | _ => { l with accepted := l.accepted ++ octets }

instance : Peer (Line server) where
  limit _ l := l
  read l :=
    let n := l.piece l.arriving
    if l.arriving.isEmpty then (.cancelled, l)
    else (.done (l.arriving.take n), { l.waited with arriving := l.arriving.drop n })
  write octets l :=
    let n := l.piece octets
    (.done n, l.waited.accept (octets.take n))
  shutdown l := (.done (), l)

theorem accept_whole {l : Line server} {octets : Bytes} {request : Request}
    (hle : request.body.length ≤ greatestCount)
    (h : Frame.octets request.body = l.accepted ++ octets) :
    l.accept octets =
      let answer := server.answer l.past request
      { l with
        past := l.past ++ [⟨request, answer⟩], accepted := []
        arriving := l.arriving ++ Frame.octets (answer.body request) } := by
  rw [accept, ← h, Frame.split_octets hle]
  simp only [Request.ofBody_body]

theorem accept_part {l : Line server} {octets more body : Bytes}
    (hle : body.length ≤ greatestCount)
    (h : Frame.octets body = (l.accepted ++ octets) ++ more) (hmore : more ≠ []) :
    l.accept octets = { l with accepted := l.accepted ++ octets } := by
  rw [accept, Frame.split_of_append hle h hmore]

theorem piece_pos (l : Line server) {octets : Bytes} (h : octets ≠ []) : 0 < l.piece octets := by
  have hpos := List.length_pos_iff.mpr h
  unfold piece
  omega

end Line

namespace Stream

variable {server : Server} {s : Stream (Line server)}

/-- Nothing is underway. -/
structure Quiet (s : Stream (Line server)) : Prop where
  received : s.received = []
  unsent : s.unsent = []
  accepted : s.peer.accepted = []
  arriving : s.peer.arriving = []

/-- The server has heard a request, and its answer is underway. -/
structure Answered (request : Request) (before after : Stream (Line server)) : Prop where
  received : after.received = []
  unsent : after.unsent = []
  accepted : after.peer.accepted = []
  arriving : after.peer.arriving =
    Frame.octets ((server.answer before.peer.past request).body request)
  past : after.peer.past = before.peer.past ++ [⟨request, server.answer before.peer.past request⟩]

theorem flush_step (h : s.unsent ≠ []) :
    s.flush =
      flush { s with
        peer := s.peer.waited.accept (s.unsent.take (s.peer.piece s.unsent))
        unsent := s.unsent.drop (s.peer.piece s.unsent) } := by
  obtain ⟨n, hn⟩ : ∃ n, s.peer.piece s.unsent = n + 1 :=
    Nat.exists_eq_add_one.mpr (s.peer.piece_pos h)
  have hwrite : Peer.write s.unsent s.peer =
      (.done (n + 1), s.peer.waited.accept (s.unsent.take (s.peer.piece s.unsent))) := by
    rw [← hn]
    rfl
  rw [flush_of_taken h hwrite, hn]

/-- What is left of a request goes over the line, in pieces. -/
theorem flush_line {request : Request} (hle : request.body.length ≤ greatestCount)
    (hreceived : s.received = []) (harriving : s.peer.arriving = [])
    (hframe : Frame.octets request.body = s.peer.accepted ++ s.unsent) (hunsent : s.unsent ≠ []) :
    ∃ after, s.flush = .ok () after ∧ Answered request s after := by
  induction hn : s.unsent.length using Nat.strongRecOn generalizing s with
  | ind n ih =>
    have hpos := s.peer.piece_pos hunsent
    have hsplit := List.take_append_drop (s.peer.piece s.unsent) s.unsent
    rw [flush_step hunsent]
    by_cases hlast : s.unsent.drop (s.peer.piece s.unsent) = []
    · rw [hlast, List.append_nil] at hsplit
      rw [hsplit, Line.accept_whole (l := s.peer.waited) hle hframe, flush_nil hlast]
      exact ⟨_, rfl, hreceived, hlast, rfl, congrArg (· ++ _) harriving, rfl⟩
    · have hparts : Frame.octets request.body = (s.peer.accepted ++
          s.unsent.take (s.peer.piece s.unsent)) ++ s.unsent.drop (s.peer.piece s.unsent) := by
        rw [List.append_assoc, hsplit, hframe]
      have hless : (s.unsent.drop (s.peer.piece s.unsent)).length < n := by
        have hlength := List.length_pos_iff.mpr hunsent
        rw [List.length_drop]
        omega
      rw [Line.accept_part (l := s.peer.waited) hle hparts hlast]
      obtain ⟨after, hflush, hanswered⟩ := ih _ hless (s := { s with
        peer := { s.peer.waited with
          accepted := s.peer.accepted ++ s.unsent.take (s.peer.piece s.unsent) }
        unsent := s.unsent.drop (s.peer.piece s.unsent) })
        hreceived harriving hparts hlast rfl
      exact ⟨after, hflush, hanswered.received, hanswered.unsent, hanswered.accepted,
        hanswered.arriving, hanswered.past⟩

theorem receiveFrame_step (hsplit : Frame.split s.received = .incomplete)
    (h : s.peer.arriving ≠ []) :
    s.receiveFrame =
      receiveFrame { s with
        peer := { s.peer.waited with
          arriving := s.peer.arriving.drop (s.peer.piece s.peer.arriving) }
        received := s.received ++ s.peer.arriving.take (s.peer.piece s.peer.arriving) } := by
  have hsome : s.peer.arriving.take (s.peer.piece s.peer.arriving) ≠ [] := by
    have hpos := s.peer.piece_pos h
    simp [h]
    omega
  obtain ⟨b, bs, hb⟩ := List.exists_cons_of_ne_nil hsome
  rw [hb]
  refine receiveFrame_of_octets hsplit ?_
  simp only [Peer.read, List.isEmpty_iff, h, if_false, hb]

/-- What is left of an answer comes over the line, in pieces. -/
theorem receiveFrame_line {body : Bytes} (hle : body.length ≤ greatestCount)
    (hframe : Frame.octets body = s.received ++ s.peer.arriving) :
    ∃ after, s.receiveFrame = .ok body after ∧ after.received = [] ∧ after.unsent = s.unsent ∧
      after.peer.accepted = s.peer.accepted ∧ after.peer.arriving = [] ∧
      after.peer.past = s.peer.past := by
  induction hn : s.peer.arriving.length using Nat.strongRecOn generalizing s with
  | ind n ih =>
    by_cases hlast : s.peer.arriving = []
    · rw [hlast, List.append_nil] at hframe
      have hwhole : Frame.split s.received = .whole body [] := by
        rw [← hframe, Frame.split_octets hle]
      exact ⟨{ s with received := [] }, receiveFrame_of_whole hwhole, rfl, rfl, rfl, hlast, rfl⟩
    · have hpos := s.peer.piece_pos hlast
      have hless : (s.peer.arriving.drop (s.peer.piece s.peer.arriving)).length < n := by
        have hlength := List.length_pos_iff.mpr hlast
        rw [List.length_drop]
        omega
      rw [receiveFrame_step (Frame.split_of_append hle hframe hlast) hlast]
      obtain ⟨after, hreceive, hafter⟩ := ih _ hless (s := { s with
        peer := { s.peer.waited with
          arriving := s.peer.arriving.drop (s.peer.piece s.peer.arriving) }
        received := s.received ++ s.peer.arriving.take (s.peer.piece s.peer.arriving) })
        (by rw [List.append_assoc, List.take_append_drop, hframe]) rfl
      exact ⟨after, hreceive, hafter⟩

end Stream

/-! ## Exchanges -/

namespace Connection

variable {server : Server} {request : Request}

/-- An exchange over a line: the server hears the request, and the client reads its answer. -/
theorem exchange_line {s : Stream (Line server)} (hs : s.Quiet) (timeout : Option Nat)
    (hle : request.body.length ≤ greatestCount) :
    ∃ after : Stream (Line server), after.Quiet ∧
      after.peer.past = s.peer.past ++ [⟨request, server.answer s.peer.past request⟩] ∧
      (∀ response, Response.ofFrame request.ref ((server.answer s.peer.past request).body request) =
        .ok response → exchange timeout request.ref (s.push (Frame.octets request.body)) =
          .ok response after) ∧
      ∀ e, Response.ofFrame request.ref ((server.answer s.peer.past request).body request) =
        .error e → exchange timeout request.ref (s.push (Frame.octets request.body)) =
          .error (.failed e) after := by
  have hunsent : (s.push (Frame.octets request.body)).unsent = Frame.octets request.body := by
    simp [Stream.push, hs.unsent]
  have hframe : Frame.octets request.body =
      (s.push (Frame.octets request.body)).peer.accepted ++
        (s.push (Frame.octets request.body)).unsent := by
    rw [hunsent, show (s.push (Frame.octets request.body)).peer.accepted = [] from hs.accepted]
    rfl
  have hsome : (s.push (Frame.octets request.body)).unsent ≠ [] := by
    rw [hunsent]
    exact Frame.octets_ne_nil _
  obtain ⟨flushed, hflush, hanswered⟩ :=
    Stream.flush_line hle (s := s.push (Frame.octets request.body)) hs.received hs.arriving hframe
      hsome
  have harriving : Frame.octets ((server.answer s.peer.past request).body request) =
      flushed.received ++ flushed.peer.arriving := by
    rw [hanswered.received, hanswered.arriving]
    rfl
  obtain ⟨after, hreceive, hreceived, hsame, haccepted, hempty, hpast⟩ :=
    Stream.receiveFrame_line (server.body_le _ _) harriving
  refine ⟨after, ⟨hreceived, hsame.trans hanswered.unsent, haccepted.trans hanswered.accepted,
    hempty⟩, hpast.trans hanswered.past, ?_, ?_⟩
  · exact fun response h => exchange_of_response hflush hreceive h
  · exact fun e h => exchange_of_failure hflush hreceive h

/-- A client over a line between two calls. -/
structure Serving (client : Client (Line server)) : Prop where
  ready : client.connection.phase = .ready
  quiet : client.connection.stream.Quiet

/-- What was asked and answered over the line of a client. -/
def past (client : Client (Line server)) : List Round :=
  client.connection.stream.peer.past

/-- The client has asked once more, and has been answered, and nothing else. -/
structure Asked (request : Request) (before after : Client (Line server)) : Prop where
  serving : Serving after
  past_eq : past after = past before ++ [⟨request, server.answer (past before) request⟩]
  pendingClose_eq : after.connection.pendingClose = before.connection.pendingClose

/-- **What a request comes to over a line.** The server hears it once. With the status 0 the client
gets what the server said, and with another status a failure that is not one of the connection. -/
theorem roundTrip_line {client : Client (Line server)} (hclient : Serving client) {octets : Bytes}
    (hframe : request.frame = .ok octets) :
    ∃ after, Asked request client after ∧
      ((server.answer (past client) request).status = 0 → roundTrip request client =
        .ok ⟨request.op, request.id, (server.answer (past client) request).payload⟩ after) ∧
      ((server.answer (past client) request).IsRefusal → ∃ e : Error,
        e.isConnectionError = false ∧ roundTrip request client = .error (.failed e) after) := by
  obtain ⟨rfl, hle⟩ := Request.frame_eq_ok hframe
  obtain ⟨stream, hquiet, hpast, hresponse, hfailure⟩ :=
    exchange_line hclient.quiet client.connection.config.timeout hle
  refine ⟨client.withConnection (client.connection.answered stream), ⟨⟨rfl, hquiet⟩, hpast, rfl⟩,
    ?_, ?_⟩
  · intro hstatus
    have hexchange := hresponse _ (Answer.ofFrame_of_status hstatus)
    unfold roundTrip
    simp only [hclient.ready, hframe, hexchange]
    rfl
  · intro hrefusal
    obtain ⟨cause, hcause⟩ : ∃ cause : ApplicationError,
        Response.ofFrame request.ref (Answer.body _ request) = .error cause :=
      Answer.ofFrame_of_isRefusal hrefusal
    have hexchange := hfailure _ hcause
    refine ⟨Error.withRequest cause request.ref, rfl, ?_⟩
    unfold roundTrip
    simp only [hclient.ready, hframe, hexchange]
    rfl

end Connection

end ThinClient
