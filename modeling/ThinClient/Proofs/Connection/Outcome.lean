import ThinClient.Proofs.Connection.Trips

/-!
# What a result says about the connection

Whether an error ends a connection is decided in two places: a round trip looks at
`Error.isFatal`, the deferred closes pass on what is an `Error.isConnectionError` and only report
the rest. An answer that cannot be read is of the first kind and not of the second, so a close can
break the connection without a word; whatever comes next on it, if only the request itself, then
fails for that.

* `Candid` is a call that is given up or tells by its result whether the connection can still be
  used. Round trips are (`roundTrip_candid`), and so is what is made of them.
* `Client.Drained` says that nothing is unsent while the connection is ready, which every call keeps
  and every reachable client is (`Client.Reachable.drained`).
* `Client.Reachable.outcome`: **the connection is broken after a call that has returned if and only
  if the result is a fatal error**, and a request that is too long for a frame leaves nothing of it
  behind.
-/

namespace ThinClient

variable {σ α β : Type} {client after : Client σ} {request : Request} {e : Error}

namespace Connection

/-! ## Results that tell -/

/-- The call is given up, or its result tells whether the connection can still be used. -/
def Candid : EStateM.Result (Stop Error) (Client σ) α → Prop
  | .ok _ after => after.connection.phase = .ready
  | .error (.failed e) after => after.connection.isBroken = true ↔ e.isFatal = true
  | .error .cancelled _ => True

theorem Candid.map {call : Call σ α} (h : Candid (call client)) (f : α → β) :
    Candid ((f <$> call) client) := by
  rw [map_apply]
  split
  next a after hcall => rwa [hcall] at h
  next stop after hcall => cases stop <;> rwa [hcall] at h

theorem Candid.phase_of_failed {call : Call σ α} (h : Candid (call client))
    (hcall : call client = .error (.failed e) after) (he : e.isFatal = false) :
    after.connection.phase = .ready := by
  rw [hcall] at h
  simpa [Candid, he, isBroken] using h

variable [Peer σ]

theorem roundTrip_candid (request : Request) (client : Client σ) :
    Candid (roundTrip request client) := by
  rw [roundTrip_eq]
  cases hpassage : client.connection.passage request with
  | refused => exact iff_of_true rfl rfl
  | unwritable e =>
    obtain ⟨hready, -⟩ := frame_of_unwritable hpassage
    exact iff_of_false (by simp [isBroken, hready]) Bool.false_ne_true
  | unanswered stop stream =>
    cases stop with
    | failed e => exact failed_isBroken_iff _ _
    | cancelled => trivial
  | answered frame stream =>
    dsimp only
    cases Response.ofFrame request.ref frame with
    | ok response => rfl
    | error e => exact failed_isBroken_iff _ _

theorem closeResource_candid (resource : Int64) (client : Client σ) :
    Candid (closeResource resource client) := by
  rw [closeResource_eq]
  exact (roundTrip_candid _ _).map _

/-- The deferred closes fail with failures of the exchange of frames only. -/
theorem isConnectionError_of_closeEach (pending : List Int64)
    (h : closeEach pending client = .error (.failed e) after) : e.isConnectionError = true := by
  induction pending generalizing client with
  | nil => cases h
  | cons resource rest ih =>
    cases hclose : closeResource resource client with
    | ok _ middle => exact ih (closeEach_of_ok hclose ▸ h)
    | error stop middle =>
      cases stop with
      | failed e' =>
        rw [closeEach_of_failed hclose] at h
        split at h
        next he' =>
          cases h
          exact he'
        next => exact ih h
      | cancelled =>
        rw [closeEach_of_cancelled hclose] at h
        cases h

theorem sendAndReceive_candid (request : Request) (client : Client σ) :
    Candid (sendAndReceive request client) := by
  cases hpending : closePending client with
  | ok _ clear =>
    rw [sendAndReceive_of_pending hpending]
    exact roundTrip_candid request clear
  | error stop after =>
    rw [sendAndReceive_of_stop hpending]
    have hclosing := closePending_eq client ▸ hpending
    cases stop with
    | failed e =>
      have he := isConnectionError_of_closeEach _ hclosing
      exact iff_of_true (closeEach_error _ hclosing) (isFatal_of_isConnectionError he)
    | cancelled => trivial

/-! ## Requests that are too long -/

omit [Peer σ] in
theorem kind_of_ofFrame {ref : RequestRef} {frame : Bytes}
    (h : Response.ofFrame ref frame = .error e) (cause : EncodeError) : e.kind ≠ .encode cause := by
  cases hid : Response.id? frame with
  | none =>
    rw [Response.ofFrame_of_short hid] at h
    cases h
    exact nofun
  | some found =>
    rw [Response.ofFrame_of_id hid] at h
    split at h
    next =>
      cases h
      exact nofun
    split at h
    next => cases h
    split at h <;>
    · cases h
      exact nofun

/-- Only a request that is too long for a frame fails so, and then nothing has happened. -/
theorem roundTrip_encode {cause : EncodeError}
    (h : roundTrip request client = .error (.failed e) after) (he : e.kind = .encode cause) :
    request.frame = .error cause ∧ after = client := by
  rw [roundTrip_eq] at h
  cases hpassage : client.connection.passage request with
  | refused =>
    rw [hpassage] at h
    cases h
    cases he
  | unwritable e' =>
    rw [hpassage] at h
    cases h
    cases he
    exact ⟨(frame_of_unwritable hpassage).2, rfl⟩
  | unanswered stop stream =>
    rw [hpassage] at h
    cases stop <;> cases h
    cases he
  | answered frame stream =>
    rw [hpassage] at h
    dsimp only at h
    cases hresponse : Response.ofFrame request.ref frame with
    | ok response =>
      rw [hresponse] at h
      cases h
    | error e' =>
      rw [hresponse] at h
      cases h
      exact absurd he (kind_of_ofFrame hresponse cause)

theorem closeResource_encode {resource : Int64} {cause : EncodeError} (he : e.kind = .encode cause) :
    closeResource resource client ≠ .error (.failed e) after := by
  intro h
  rw [closeResource_eq, map_apply] at h
  split at h
  next => cases h
  next stop after' hround =>
    cases h
    obtain ⟨hframe, -⟩ := roundTrip_encode hround he
    cases hframe

theorem sendAndReceive_encode {cause : EncodeError}
    (h : sendAndReceive request client = .error (.failed e) after) (he : e.kind = .encode cause) :
    request.frame = .error cause ∧ closePending client = .ok () after := by
  cases hpending : closePending client with
  | ok _ clear =>
    rw [sendAndReceive_of_pending hpending] at h
    obtain ⟨hframe, rfl⟩ := roundTrip_encode h he
    exact ⟨hframe, rfl⟩
  | error stop after' =>
    rw [sendAndReceive_of_stop hpending] at h
    cases h
    have hconnection := isConnectionError_of_closeEach _ (closePending_eq client ▸ hpending)
    rw [Error.isConnectionError, he] at hconnection
    cases hconnection

end Connection

/-! ## What is unsent -/

namespace Stream

variable [Peer σ] {s after : Stream σ}

theorem unsent_of_flush (h : s.flush = .ok () after) : after.unsent = [] := by
  fun_induction flush s with
  | case1 s hunsent =>
    cases h
    exact hunsent
  | case2 => cases h
  | case3 => cases h
  | case4 s hunsent delivery peer hwrite n hdone ih => exact ih h

theorem unsent_of_receiveFrame {frame : Bytes} (h : s.receiveFrame = .ok frame after) :
    after.unsent = s.unsent := by
  fun_induction receiveFrame s with
  | case1 s body rest hsplit =>
    cases h
    rfl
  | case2 => cases h
  | case3 => cases h
  | case4 => cases h
  | case5 s hsplit delivery peer hread b bs hdone ih => exact ih h

end Stream

/-- Nothing is unsent while the connection is ready. -/
def Client.Drained (client : Client σ) : Prop :=
  client.connection.phase = .ready → client.connection.stream.unsent = []

namespace Connection

variable [Peer σ]

theorem unsent_of_swap {timeout : Option Nat} {s after : Stream σ} {frame : Bytes}
    (h : swap timeout s = .ok frame after) : after.unsent = [] := by
  obtain ⟨flushed, received, hflush, hreceive, rfl⟩ := swap_eq_ok h
  exact (Stream.unsent_of_receiveFrame hreceive).trans (Stream.unsent_of_flush hflush)

theorem roundTrip_drained (h : client.Drained) (request : Request) :
    (client.after (roundTrip request)).Drained := by
  intro hready
  rcases roundTrip_ready hready with ⟨hphase, ⟨e, -, hafter⟩ | ⟨_, frame, stream, -, hswap, hafter⟩⟩
  · rw [hafter]
    exact h hphase
  · rw [hafter]
    exact unsent_of_swap hswap

theorem closeResource_drained (h : client.Drained) (resource : Int64) :
    (client.after (closeResource resource)).Drained := by
  have htook : (tookId client).Drained := h
  rw [after_closeResource]
  exact roundTrip_drained htook _

theorem closeEach_drained (pending : List Int64) (h : client.Drained) :
    (client.after (closeEach pending)).Drained := by
  induction pending generalizing client with
  | nil => exact h
  | cons resource rest ih =>
    have hclose := closeResource_drained h resource
    rcases closeEach_cons resource rest client with ⟨next, hnext, hrun, -⟩ | ⟨stop, hrun, -, -⟩
    · rw [Client.after_congr hrun]
      refine ih ?_
      rwa [Client.Drained, hnext]
    · rwa [Client.after_of_error hrun]

theorem closePending_drained (h : client.Drained) : (client.after closePending).Drained := by
  have htook : (tookPending client).Drained := h
  rw [after_closePending]
  exact closeEach_drained _ htook

theorem sendAndReceive_drained (h : client.Drained) (request : Request) :
    (client.after (sendAndReceive request)).Drained := by
  intro hready
  obtain ⟨clear, hpending, -, hafter⟩ := sendAndReceive_ready hready
  have hclear := closePending_drained h
  rw [Client.after_of_ok hpending] at hclear
  rw [hafter] at hready ⊢
  exact roundTrip_drained hclear request hready

theorem drained_of_establish {config : Config} {s after : Stream σ} {c : Connection σ}
    (h : establish config s = .ok c after) (journal : Journal) : Client.Drained ⟨c, journal⟩ := by
  unfold establish at h
  rw [bind_apply] at h
  split at h
  next _ shaken hshake =>
    cases h
    obtain ⟨frame, hswap⟩ := swap_of_shakeHands hshake
    exact fun _ => unsent_of_swap hswap
  next => cases h

end Connection

theorem Exchange.perform_drained [Peer σ] (exchange : Exchange) (h : client.Drained) :
    (client.after exchange.perform).Drained := by
  cases exchange with
  | send request =>
    rw [perform, Client.after_map]
    exact Connection.sendAndReceive_drained h request
  | close resource =>
    rw [perform, Client.after_map]
    exact Connection.closeResource_drained h resource
  | closePending =>
    rw [perform, Client.after_map]
    exact Connection.closePending_drained h
  | defer resource => exact h

/-! ## Reachable clients -/

namespace Client

open Connection

variable [Peer σ]

/-- The clients that an opened connection can lead to. -/
inductive Reachable : Client σ → Prop
  | opened {config : Config} {s after : Stream σ} {c : Connection σ}
    (h : establish config s = .ok c after) (journal : Journal) : Reachable ⟨c, journal⟩
  /-- Something else is reported. -/
  | noted {client : Client σ} (h : Reachable client) (journal : Journal) :
    Reachable { client with journal }
  /-- Ids are taken, or come from another source. -/
  | renumbered {client : Client σ} (h : Reachable client) (ids : IdSource) :
    Reachable (client.withConnection { client.connection with ids })
  /-- A call has given a value, has failed or was given up. -/
  | called {client : Client σ} (h : Reachable client) (exchange : Exchange) :
    Reachable (client.after exchange.perform)

theorem Reachable.drained (h : client.Reachable) : client.Drained := by
  induction h with
  | opened h journal => exact drained_of_establish h journal
  | noted _ _ ih | renumbered _ _ ih => exact ih
  | called _ exchange ih => exact exchange.perform_drained ih

/-- **The connection is broken after a call that has returned if and only if the result is a fatal
error**, whatever closes were deferred and whatever the peer has done. A request fails for its own
length only, after all closes, and nothing of it is left to be sent; a close never does. -/
theorem Reachable.outcome (h : client.Reachable) (request : Request) (resource : Int64) :
    Candid (sendAndReceive request client) ∧ Candid (closeResource resource client) ∧
      ∀ (e : Error) (cause : EncodeError) (after : Client σ), e.kind = .encode cause →
        closeResource resource client ≠ .error (.failed e) after ∧
        (sendAndReceive request client = .error (.failed e) after →
          request.frame = .error cause ∧ closePending client = .ok () after ∧
            after.connection.phase = .ready ∧ after.connection.stream.unsent = []) := by
  have hcandid := sendAndReceive_candid request client
  refine ⟨hcandid, closeResource_candid resource client, fun e cause after he => ?_⟩
  refine ⟨closeResource_encode he, fun hsend => ?_⟩
  obtain ⟨hframe, hpending⟩ := sendAndReceive_encode hsend he
  have hready : after.connection.phase = .ready :=
    hcandid.phase_of_failed hsend (congrArg ErrorKind.isFatal he)
  have hdrained := closePending_drained h.drained
  rw [after_of_ok hpending] at hdrained
  exact ⟨hframe, hpending, hready, hdrained hready⟩

end Client

theorem Request.frame_of_overlong (request : Request)
    (h : greatestCount < headerLength + request.payload.length) :
    request.frame = .error (.tooLarge "request" (headerLength + request.payload.length)) := by
  rw [frame, encodeLength, if_neg (by omega)]
  rfl

namespace Client

open Connection

/-- A server that answers its first request so. -/
def answering (payload : Bytes) (status : Int32) : Stream Rehearsal.ScriptedPeer :=
  { peer := { replies := [{ reply := .response payload status 0 }] } }

/-- A connection to that server, and a close that is deferred. -/
def holding (payload : Bytes) (status : Int32) : Client Rehearsal.ScriptedPeer :=
  match establish .default (answering payload status) with
  | .ok c _ => Client.after ⟨c, {}⟩ (Exchange.defer 3).perform
  | .error _ stream => ⟨{ stream, config := .default }, {}⟩

theorem reachable_holding {payload : Bytes} {status : Int32} {c : Connection Rehearsal.ScriptedPeer}
    {after : Stream Rehearsal.ScriptedPeer}
    (h : establish .default (answering payload status) = .ok c after) :
    (holding payload status).Reachable := by
  rw [holding, h]
  exact .called (.opened h {}) _

/-- The answer to the close cannot be read. -/
def closeUnreadable : Client Rehearsal.ScriptedPeer :=
  holding [42] 1

/-- The server refuses the close. -/
def closeRefused : Client Rehearsal.ScriptedPeer :=
  holding [TypeCode.null.toByte] 1

/-- The close breaks the connection without a word, and the request fails for that; or the close is
refused, and the request is too long. -/
theorem outcome_holding :
    (∃ e after, sendAndReceive ⟨.querySqlFields, 9, []⟩ closeUnreadable = .error (.failed e) after ∧
        e.kind = .transport .broken ∧ after.connection.isBroken = true) ∧
      ∃ payload e after, payload.length = greatestCount ∧
        sendAndReceive ⟨.querySqlFields, 9, payload⟩ closeRefused = .error (.failed e) after ∧
          after.connection.phase = .ready ∧ after.connection.stream.unsent = [] := by
  constructor
  · have hopen : establish .default (answering [42] 1) =
        .ok { closeUnreadable.connection with pendingClose := [] }
          closeUnreadable.connection.stream := by cbv
    have hsend : sendAndReceive ⟨.querySqlFields, 9, []⟩ closeUnreadable =
        .error (.failed ⟨.transport .broken, some ⟨.querySqlFields, 9⟩⟩)
          (closeUnreadable.after (sendAndReceive ⟨.querySqlFields, 9, []⟩)) := by cbv
    have hcandid := ((reachable_holding hopen).outcome ⟨.querySqlFields, 9, []⟩ 3).1
    change Candid (sendAndReceive ⟨.querySqlFields, 9, []⟩ closeUnreadable) at hcandid
    rw [hsend] at hcandid
    exact ⟨_, _, hsend, rfl, hcandid.mpr rfl⟩
  · have hopen : establish .default (answering [TypeCode.null.toByte] 1) =
        .ok { closeRefused.connection with pendingClose := [] }
          closeRefused.connection.stream := by cbv
    have hpending : closePending closeRefused = .ok () (closeRefused.after closePending) := by cbv
    have hphase : (closeRefused.after closePending).connection.phase = .ready := by cbv
    obtain ⟨payload, hlength⟩ : ∃ payload : Bytes, payload.length = greatestCount :=
      ⟨List.replicate greatestCount 0, List.length_replicate⟩
    have hlong : greatestCount < Request.headerLength + payload.length := by
      rw [hlength, Request.headerLength]
      omega
    have hframe := Request.frame_of_overlong ⟨.querySqlFields, 9, payload⟩ hlong
    have hsend := sendAndReceive_of_pending hpending ⟨.querySqlFields, 9, payload⟩
    rw [roundTrip_of_unwritable hphase hframe] at hsend
    have houtcome := (reachable_holding hopen).outcome ⟨.querySqlFields, 9, payload⟩ 3
    obtain ⟨-, -, hready, hunsent⟩ := (houtcome.2.2 _ _ _ rfl).2 hsend
    exact ⟨payload, _, _, hlength, hsend, hready, hunsent⟩

end Client

end ThinClient
