import ThinClient.Proofs.Connection.Swapping
import ThinClient.Proofs.Handshake

/-!
# How connections are opened

A connection is opened by one request of twelve octets and the first frame that comes back. Any
other end can take the request in pieces and send its answer in pieces, stop in between, send
something else, or send more than the answer.

* `Connection.Opens` is what the opening comes to, by what is accepted and what arrives during it.
  `establish_recorded` is about any other end: a connection is opened if and only if the request is
  accepted completely and the first frame that arrives begins with the octet 1.
* `establish_alike`: over any other end, it comes to what it comes to over some counterpart.
* `Connection.establish_outcome` is about all that a counterpart can do: **a connection is opened if
  and only if it takes the whole request and sends such a frame in time**. What comes behind the
  frame is kept, and all other outcomes are told apart.
-/

namespace ThinClient.Connection

variable {σ : Type}

/-! ## Opening -/

/-- What a frame that answers the handshake leads to. -/
def opened (config : Config) (after : Stream σ) (frame : Bytes) :
    EStateM.Result (Stop Error) (Stream σ) (Connection σ) :=
  match Handshake.ofFrame config.version frame with
  | .ok () => .ok { stream := after, config } after
  | .error e => .error (.failed e) after

section opened

variable {config : Config} {after : Stream σ} {frame : Bytes}

theorem opened_eq_ok_iff : opened config after frame = .ok { stream := after, config } after ↔
    Handshake.ofFrame config.version frame = .ok () := by
  unfold opened
  cases Handshake.ofFrame config.version frame <;> simp

theorem opened_eq_error_iff {e : Error} : opened config after frame = .error (.failed e) after ↔
    Handshake.ofFrame config.version frame = .error e := by
  unfold opened
  cases Handshake.ofFrame config.version frame <;> simp

theorem eq_of_opened {c : Connection σ} {s : Stream σ} (h : opened config after frame = .ok c s) :
    s = after ∧ c = { stream := after, config } := by
  unfold opened at h
  split at h
  next =>
    cases h
    exact ⟨rfl, rfl⟩
  next => cases h

theorem opened_outcome (config : Config) (after : Stream σ) (frame : Bytes) :
    opened config after frame = .ok { stream := after, config } after ∨
      ∃ e, opened config after frame = .error (.failed e) after ∧ e.isFatal = true := by
  unfold opened
  cases hanswer : Handshake.ofFrame config.version frame with
  | ok _ => exact .inl rfl
  | error e => exact .inr ⟨e, rfl, Handshake.isFatal_of_ofFrame hanswer⟩

end opened

theorem establish_eq [Peer σ] (config : Config) (s : Stream σ) :
    establish config s =
      match swap config.timeout (s.push (Handshake.request config.version)) with
      | .ok frame s => opened config s frame
      | .error (.failed e) s => .error (.failed e) s
      | .error .cancelled s => .error .cancelled s := by
  have hfold : (Stream.within config.timeout do Stream.flush; Stream.receiveFrame) =
      swap (σ := σ) config.timeout := rfl
  unfold establish shakeHands
  rw [hfold, bind_assoc, bind_apply]
  simp only [modify, modifyGet, MonadStateOf.modifyGet, EStateM.modifyGet]
  rw [bind_assoc, bind_apply, onStream]
  cases swap config.timeout (s.push (Handshake.request config.version)) with
  | ok frame s =>
    dsimp only [opened]
    cases Handshake.ofFrame config.version frame <;> rfl
  | error stop s => cases stop <;> rfl

/-- Whatever becomes of the opening, what is left of the stream is what the exchange has left. -/
theorem after_establish [Peer σ] (config : Config) (s : Stream σ) :
    s.after (establish config) =
      (s.push (Handshake.request config.version)).after (swap config.timeout) := by
  unfold Stream.after
  rw [establish_eq]
  cases swap config.timeout (s.push (Handshake.request config.version)) with
  | ok frame after =>
    obtain hok | ⟨e, herror, -⟩ := opened_outcome config after frame
    · simp only [hok]
    · simp only [herror]
  | error stop after => cases stop <;> rfl

/-- A stream with which nothing has been done. -/
def untouched (peer : σ) : Stream (Recorded σ) :=
  { peer := { peer } }

/-- What the opening of a connection comes to, by the waits it has gone through. -/
inductive Opens (config : Config) (after : Stream (Recorded σ)) (waits : List Dealing) :
    EStateM.Result (Stop Error) (Stream (Recorded σ)) (Connection (Recorded σ)) → Prop
  | answered (frame : Bytes) (hsent : acceptedIn waits = Handshake.request config.version)
      (hle : frame.length ≤ greatestCount)
      (hheard : deliveredIn waits = Frame.octets frame ++ after.received)
      (hunsent : after.unsent = []) : Opens config after waits (opened config after frame)
  /-- The request has not been sent completely, or no frame has arrived. -/
  | failed (e : TransportError)
      (hsent : acceptedIn waits <+: Handshake.request config.version)
      (hframeless : Frame.IsFrameless (deliveredIn waits)) :
      Opens config after waits (.error (.failed e) after)
  | givenUp (hsent : acceptedIn waits <+: Handshake.request config.version)
      (hframeless : Frame.IsFrameless (deliveredIn waits))
      (hgiven : ∃ d ∈ waits, d.isGivenUp = true) :
      Opens config after waits (.error .cancelled after)

theorem establish_opens [Peer σ] (config : Config) (peer : σ) :
    let after := (untouched peer).after (establish config)
    ∃ waits, after.peer.dealings = .limit config.timeout :: waits ++ [.limit none] ∧
      (∀ d ∈ waits, d.isWait = true) ∧
      Opens config after waits (establish config (untouched peer)) := by
  have hswap := swap_swaps config.timeout
    ((untouched peer).push (Handshake.request config.version))
  rw [after_establish, establish_eq, Stream.after]
  cases hresult : swap config.timeout
      ((untouched peer).push (Handshake.request config.version)) with
  | ok frame after =>
    rw [hresult] at hswap
    cases hswap with
    | answered _ _ waits hdealings hwaits hsent hunsent hle hheard =>
      exact ⟨waits, hdealings, hwaits, .answered frame hsent hle hheard hunsent⟩
  | error stop after =>
    rw [hresult] at hswap
    obtain ⟨waits, hdealings, hwaits, hsent, hnone, hstop⟩ := hswap.of_error rfl
    refine ⟨waits, hdealings, hwaits, ?_⟩
    cases stop with
    | failed e => exact .failed e hsent hnone
    | cancelled => exact .givenUp hsent hnone (hstop rfl)

namespace Opens

variable {config : Config} {after : Stream (Recorded σ)} {waits : List Dealing} {rest : Bytes}
  {frame : Bytes}
  {result : EStateM.Result (Stop Error) (Stream (Recorded σ)) (Connection (Recorded σ))}

theorem isPrefix (h : Opens config after waits result) :
    acceptedIn waits <+: Handshake.request config.version := by
  cases h with
  | answered _ hsent => exact hsent ▸ List.prefix_refl _
  | failed _ hsent | givenUp hsent => exact hsent

/-- If a frame stands in front of what arrives, it is the answer. -/
theorem of_frame (h : Opens config after waits result) (hle : frame.length ≤ greatestCount)
    (hheard : deliveredIn waits = Frame.octets frame ++ rest) :
    acceptedIn waits = Handshake.request config.version ∧ after.received = rest ∧
      result = opened config after frame := by
  cases h with
  | answered frame' hsent hle' hheard' =>
    obtain ⟨rfl, hrest⟩ := Frame.octets_append_inj hle' hle (hheard'.symm.trans hheard)
    exact ⟨hsent, hrest, rfl⟩
  | failed _ _ hframeless | givenUp _ hframeless =>
    exact absurd (hheard ▸ List.prefix_append _ _) (hframeless frame hle)

theorem eq_ok_iff (h : Opens config after waits result) :
    result = .ok { stream := after, config } after ↔
      acceptedIn waits = Handshake.request config.version ∧
        ∃ frame rest, frame.length ≤ greatestCount ∧
          deliveredIn waits = Frame.octets frame ++ rest ∧
          Handshake.ofFrame config.version frame = .ok () := by
  constructor
  · intro hok
    cases h with
    | answered frame hsent hle hheard =>
      exact ⟨hsent, frame, after.received, hle, hheard, opened_eq_ok_iff.mp hok⟩
    | failed | givenUp => cases hok
  · rintro ⟨-, frame, rest, hle, hheard, hanswer⟩
    rw [(h.of_frame hle hheard).2.2]
    exact opened_eq_ok_iff.mpr hanswer

theorem eq_refusal_iff (h : Opens config after waits result) (refusal : HandshakeError) :
    result = .error (.failed refusal) after ↔
      ∃ frame rest, frame.length ≤ greatestCount ∧
        deliveredIn waits = Frame.octets frame ++ rest ∧
        Handshake.ofFrame config.version frame = .error refusal := by
  constructor
  · intro hrefused
    cases h with
    | answered frame hsent hle hheard =>
      exact ⟨frame, after.received, hle, hheard, opened_eq_error_iff.mp hrefused⟩
    | failed | givenUp => cases hrefused
  · rintro ⟨frame, rest, hle, hheard, hanswer⟩
    rw [(h.of_frame hle hheard).2.2]
    exact opened_eq_error_iff.mpr hanswer

/-- There is a connection over what is left of the stream, a fatal error, or nobody who waits. -/
theorem trichotomy (h : Opens config after waits result) :
    result = .ok { stream := after, config } after ∨
      (∃ e, result = .error (.failed e) after ∧ e.isFatal = true) ∨
      result = .error .cancelled after ∧ ∃ d ∈ waits, d.isGivenUp = true := by
  cases h with
  | answered frame => exact (opened_outcome config after frame).imp_right .inl
  | failed e => exact .inr (.inl ⟨e, rfl, rfl⟩)
  | givenUp _ _ hgiven => exact .inr (.inr ⟨rfl, hgiven⟩)

end Opens

/-- A connection that has just been opened has sent its request, and nothing is left to be sent. -/
theorem establish_sent [Peer σ] {config : Config} {peer : σ} {s : Stream (Recorded σ)}
    {c : Connection (Recorded σ)} (h : establish config (untouched peer) = .ok c s) :
    c = { stream := s, config } ∧ s.unsent = [] ∧
      acceptedIn s.peer.dealings = Handshake.request config.version := by
  have hafter : (untouched peer).after (establish config) = s := by rw [Stream.after, h]
  obtain ⟨waits, hdealings, -, hopens⟩ := establish_opens config peer
  rw [hafter] at hdealings hopens
  generalize establish config (untouched peer) = result at h hopens
  cases hopens with
  | answered frame hsent _ _ hunsent =>
    obtain ⟨-, rfl⟩ := eq_of_opened h
    refine ⟨rfl, hunsent, ?_⟩
    simpa [hdealings, Dealing.accepted] using hsent
  | failed | givenUp => cases h

/-- Over any other end, a connection is opened exactly if the request is accepted completely and the
first frame that arrives begins with the octet 1. The time that is set holds for all waits. Whatever
happens, what is accepted at any moment is a beginning of the request, and what comes behind the
first frame is kept. Where there is no connection, and the caller has not given up, there is a fatal
error, and it is the refusal of the server exactly if the first frame is one. -/
theorem establish_recorded [Peer σ] (config : Config) (peer : σ) :
    let request := Handshake.request config.version
    let result := establish config (untouched peer)
    let after := (untouched peer).after (establish config)
    let dealings := after.peer.dealings
    request.length = 12 ∧
      (∃ waits, dealings = .limit config.timeout :: waits ++ [.limit none] ∧
        ∀ d ∈ waits, d.isWait = true) ∧
      (∀ moment, moment <+: dealings → acceptedIn moment <+: request) ∧
      (∀ frame rest, frame.length ≤ greatestCount →
        deliveredIn dealings = Frame.octets frame ++ rest → after.received = rest) ∧
      (result = .ok { stream := after, config } after ↔ acceptedIn dealings = request ∧
        ∃ body rest, (Handshake.accepted :: body).length ≤ greatestCount ∧
          deliveredIn dealings = Frame.octets (Handshake.accepted :: body) ++ rest) ∧
      (result = .ok { stream := after, config } after ∨
        (∃ e, result = .error (.failed e) after ∧ e.isFatal = true) ∨
        result = .error .cancelled after ∧ ∃ d ∈ dealings, d.isGivenUp = true) ∧
      ∀ refusal : HandshakeError, result = .error (.failed refusal) after ↔
        refusal.requested = config.version ∧ ∃ flag text more rest, flag ≠ Handshake.accepted ∧
          encodeNullableText refusal.explanation = .ok text ∧
          (Handshake.refusalOctets flag refusal.serverVersion text ++ more).length ≤
            greatestCount ∧
          deliveredIn dealings =
            Frame.octets (Handshake.refusalOctets flag refusal.serverVersion text ++ more) ++
              rest := by
  intro request result after dealings
  obtain ⟨waits, hwhole, hwaits, hopens⟩ := establish_opens config peer
  change dealings = .limit config.timeout :: waits ++ [.limit none] at hwhole
  have haccepted : acceptedIn dealings = acceptedIn waits := by
    simp [hwhole, Dealing.accepted]
  have hdelivered : deliveredIn dealings = deliveredIn waits := by
    simp [hwhole, Dealing.delivered]
  refine ⟨Handshake.length_request _, ⟨waits, hwhole, hwaits⟩, fun moment hmoment => ?_,
    fun frame rest hle hheard => ?_, ?_, ?_, fun refusal => ?_⟩
  · exact (acceptedIn_mono hmoment).trans (haccepted ▸ hopens.isPrefix)
  · exact (hopens.of_frame hle (hdelivered ▸ hheard)).2.1
  · rw [haccepted, hdelivered, hopens.eq_ok_iff]
    refine and_congr_right fun _ => ⟨?_, ?_⟩
    · rintro ⟨frame, rest, hle, hheard, hanswer⟩
      obtain ⟨body, rfl⟩ := Handshake.ofFrame_eq_ok_iff.mp hanswer
      exact ⟨body, rest, hle, hheard⟩
    · rintro ⟨body, rest, hle, hheard⟩
      exact ⟨_, rest, hle, hheard, Handshake.ofFrame_eq_ok_iff.mpr ⟨body, rfl⟩⟩
  · obtain hok | hfailed | ⟨hcancelled, d, hd, hgiven⟩ := hopens.trichotomy
    · exact .inl hok
    · exact .inr (.inl hfailed)
    · exact .inr (.inr ⟨hcancelled, d, by simp [hwhole, hd], hgiven⟩)
  · rw [hdelivered, hopens.eq_refusal_iff]
    constructor
    · rintro ⟨frame, rest, hle, hheard, hanswer⟩
      obtain ⟨hrequested, flag, text, more, hflag, htext, rfl⟩ :=
        Handshake.ofFrame_eq_refusal_iff.mp hanswer
      exact ⟨hrequested, flag, text, more, rest, hflag, htext, hle, hheard⟩
    · rintro ⟨hrequested, flag, text, more, rest, hflag, htext, hle, hheard⟩
      exact ⟨_, rest, hle, hheard,
        Handshake.ofFrame_eq_refusal_iff.mpr ⟨hrequested, flag, text, more, hflag, htext, rfl⟩⟩

/-- What is seen of an opening: a configuration and what is kept of what has arrived, or why there
is no connection. -/
def gist :
    EStateM.Result (Stop Error) (Stream σ) (Connection σ) → Except (Stop Error) (Config × Bytes)
  | .ok c _ => .ok (c.config, c.stream.received)
  | .error stop _ => .error stop

theorem gist_opened {σ' : Type} {config : Config} {after : Stream σ} {after' : Stream σ'}
    (h : after.received = after'.received) (frame : Bytes) :
    gist (opened config after frame) = gist (opened config after' frame) := by
  unfold opened
  cases Handshake.ofFrame config.version frame with
  | ok _ => simp only [gist, h]
  | error e => rfl

/-! ## Opening over a counterpart -/

section counterpart

variable {config : Config} {c : Counterpart}

theorem exists_handshake (config : Config) (c : Counterpart) : ∃ outcome,
    c.Exchanges config.timeout (Handshake.request config.version).length outcome :=
  c.exists_exchanges config.timeout (by simp [Handshake.length_request])

theorem establish_of_answered {frame extra : Bytes} {rest : List (Pause Bytes)}
    (h : c.Exchanges config.timeout (Handshake.request config.version).length
      (.ok (frame, extra, rest))) :
    let after := (untouched c).after (establish config)
    establish config (untouched c) = opened config after frame ∧
      acceptedIn after.peer.dealings = Handshake.request config.version ∧
      after.received = extra ∧ after.peer.peer.output = rest := by
  obtain ⟨last, hswap, hreceived, houtput⟩ :=
    swap_of_exchanges (s := (untouched c).push (Handshake.request config.version)) h rfl rfl
  have hopened : establish config (untouched c) = opened config last frame := by
    rw [establish_eq, hswap]
  rw [after_establish, Stream.after, hswap]
  exact ⟨hopened, (swap_ok_accepted hswap).1, hreceived, houtput⟩

theorem establish_of_failed {e : TransportError}
    (h : c.Exchanges config.timeout (Handshake.request config.version).length
      (.error (.failed e))) :
    establish config (untouched c) =
      .error (.failed e) ((untouched c).after (establish config)) := by
  obtain ⟨last, hswap⟩ :=
    swap_of_exchanges_error (s := (untouched c).push (Handshake.request config.version)) h rfl rfl
  rw [after_establish, establish_eq, Stream.after, hswap]

theorem establish_of_cancelled
    (h : c.Exchanges config.timeout (Handshake.request config.version).length
      (.error .cancelled)) :
    establish config (untouched c) =
      .error .cancelled ((untouched c).after (establish config)) := by
  obtain ⟨last, hswap⟩ :=
    swap_of_exchanges_error (s := (untouched c).push (Handshake.request config.version)) h rfl rfl
  rw [after_establish, establish_eq, Stream.after, hswap]

/-- Whatever the opening comes to over any other end, it also comes to over a counterpart. -/
theorem establish_alike [Peer σ] (config : Config) (peer : σ)
    (htime : config.timeout = none → ∀ after,
      establish config (untouched peer) ≠ .error (.failed TransportError.timedOut) after) :
    ∃ c : Counterpart,
      gist (establish config (untouched peer)) = gist (establish config (untouched c)) := by
  have hunsent : ((untouched peer).push (Handshake.request config.version)).unsent ≠ [] := by
    rw [← List.length_pos_iff]
    simp [Stream.push, untouched, Handshake.length_request]
  obtain ⟨c, ⟨frame, after, rest, hswap, h⟩ | ⟨stop, after, hswap, h⟩⟩ :=
    exists_alike hunsent rfl fun hnone after h => htime hnone after (by rw [establish_eq, h])
  · obtain ⟨hopened, -, hreceived, -⟩ := establish_of_answered h
    refine ⟨c, ?_⟩
    rw [hopened, establish_eq, hswap]
    exact gist_opened hreceived.symm frame
  · refine ⟨c, ?_⟩
    rw [establish_eq, hswap]
    cases stop with
    | failed e => rw [establish_of_failed h]; rfl
    | cancelled => rw [establish_of_cancelled h]; rfl

/-- There is a connection exactly if a frame arrives that accepts. -/
theorem establish_eq_ok_iff :
    let after := (untouched c).after (establish config)
    establish config (untouched c) = .ok { stream := after, config } after ↔
      ∃ frame extra rest, c.Exchanges config.timeout (Handshake.request config.version).length
          (.ok (frame, extra, rest)) ∧ Handshake.ofFrame config.version frame = .ok () := by
  intro after
  constructor
  · intro hok
    obtain ⟨outcome, h⟩ := exists_handshake config c
    match outcome, h with
    | .ok (frame, extra, rest), h =>
      obtain ⟨hopened, -⟩ := establish_of_answered h
      exact ⟨frame, extra, rest, h, opened_eq_ok_iff.mp (hopened.symm.trans hok)⟩
    | .error (.failed e), h => cases (establish_of_failed h).symm.trans hok
    | .error .cancelled, h => cases (establish_of_cancelled h).symm.trans hok
  · rintro ⟨frame, extra, rest, h, hanswer⟩
    exact (establish_of_answered h).1.trans (opened_eq_ok_iff.mpr hanswer)

/-- An error is what is wrong with the frame that arrives, or why there is none. -/
theorem establish_eq_error_iff {e : Error} :
    establish config (untouched c) =
        .error (.failed e) ((untouched c).after (establish config)) ↔
      (∃ frame extra rest, c.Exchanges config.timeout (Handshake.request config.version).length
          (.ok (frame, extra, rest)) ∧ Handshake.ofFrame config.version frame = .error e) ∨
        ∃ cause : TransportError, e = cause ∧
          c.Exchanges config.timeout (Handshake.request config.version).length
            (.error (.failed cause)) := by
  constructor
  · intro herror
    obtain ⟨outcome, h⟩ := exists_handshake config c
    match outcome, h with
    | .ok (frame, extra, rest), h =>
      obtain ⟨hopened, -⟩ := establish_of_answered h
      exact .inl ⟨frame, extra, rest, h, opened_eq_error_iff.mp (hopened.symm.trans herror)⟩
    | .error (.failed cause), h =>
      cases (establish_of_failed h).symm.trans herror
      exact .inr ⟨cause, rfl, h⟩
    | .error .cancelled, h => cases (establish_of_cancelled h).symm.trans herror
  · rintro (⟨frame, extra, rest, h, hanswer⟩ | ⟨cause, rfl, h⟩)
    · exact (establish_of_answered h).1.trans (opened_eq_error_iff.mpr hanswer)
    · exact establish_of_failed h

/-- Nothing comes of the opening exactly if the caller gives up, or waits for what never comes. -/
theorem establish_eq_cancelled_iff :
    establish config (untouched c) =
        .error .cancelled ((untouched c).after (establish config)) ↔
      c.Exchanges config.timeout (Handshake.request config.version).length
        (.error .cancelled) := by
  refine ⟨fun hcancelled => ?_, establish_of_cancelled⟩
  obtain ⟨outcome, h⟩ := exists_handshake config c
  match outcome, h with
  | .ok (frame, extra, rest), h =>
    obtain hok | ⟨e, herror, -⟩ :=
      opened_outcome config ((untouched c).after (establish config)) frame
    · cases (hok.symm.trans (establish_of_answered h).1.symm).trans hcancelled
    · cases (herror.symm.trans (establish_of_answered h).1.symm).trans hcancelled
  | .error (.failed e), h => cases (establish_of_failed h).symm.trans hcancelled
  | .error .cancelled, h => exact h

end counterpart

/-- **A connection is opened if and only if the other end takes the whole request, and the first
frame that it sends begins with the octet 1**, in the time that is set for both.

Over any other end, what has been accepted at any moment is a beginning of the request of twelve
octets, and the opening comes to what it comes to over some counterpart, unless a time is over that
is not set. Over a counterpart that sends a frame, all of the request has been accepted, and what
has arrived behind the frame is kept. Where there is no connection, and the caller has not given up,
there is a fatal error:

* the refusal of the server, with its version and its words, exactly if the frame is one;
* what is wrong with the octets of the frame, exactly if it is no answer;
* what has kept the counterpart from taking the request or from sending a frame, exactly if
  something has. -/
theorem establish_outcome (config : Config) :
    let request := Handshake.request config.version
    request.length = 12 ∧
    (∀ (σ : Type) [Peer σ] (peer : σ),
      let result := establish config (untouched peer)
      let dealings := ((untouched peer).after (establish config)).peer.dealings
      (∃ waits, dealings = .limit config.timeout :: waits ++ [.limit none] ∧
        ∀ d ∈ waits, d.isWait = true) ∧
      (∀ moment, moment <+: dealings → acceptedIn moment <+: request) ∧
      ((config.timeout = none → ∀ after,
          result ≠ .error (.failed TransportError.timedOut) after) →
        ∃ c : Counterpart, gist result = gist (establish config (untouched c)))) ∧
    ∀ c : Counterpart,
      let result := establish config (untouched c)
      let after := (untouched c).after (establish config)
      let comesTo := c.Exchanges config.timeout request.length
      (∃! outcome, comesTo outcome) ∧
      (∀ frame extra rest, comesTo (.ok (frame, extra, rest)) →
        acceptedIn after.peer.dealings = request ∧ after.received = extra ∧
          after.peer.peer.output = rest) ∧
      (result = .ok { stream := after, config } after ↔
        ∃ body extra rest, comesTo (.ok (Handshake.accepted :: body, extra, rest))) ∧
      (result = .error .cancelled after ↔ comesTo (.error .cancelled)) ∧
      (result = .ok { stream := after, config } after ∨
        (∃ e, result = .error (.failed e) after ∧ e.isFatal = true) ∨
        result = .error .cancelled after) ∧
      (∀ refusal : HandshakeError, result = .error (.failed refusal) after ↔
        refusal.requested = config.version ∧ ∃ flag text more extra rest,
          flag ≠ Handshake.accepted ∧ encodeNullableText refusal.explanation = .ok text ∧
          comesTo (.ok (Handshake.refusalOctets flag refusal.serverVersion text ++ more,
            extra, rest))) ∧
      (∀ e : DecodeError, result = .error (.failed e) after ↔ ∃ frame extra rest,
        comesTo (.ok (frame, extra, rest)) ∧ Handshake.Unreadable frame e) ∧
      ∀ e : TransportError,
        result = .error (.failed e) after ↔ comesTo (.error (.failed e)) := by
  refine ⟨Handshake.length_request _, fun σ _ peer => ?_, ?_⟩
  · obtain ⟨-, hwaits, hprefix, -⟩ := establish_recorded config peer
    exact ⟨hwaits, hprefix, establish_alike config peer⟩
  intro c result after comesTo
  obtain ⟨-, -, -, -, -, htrichotomy, -⟩ := establish_recorded config c
  obtain ⟨outcome, houtcome⟩ := exists_handshake config c
  refine ⟨⟨outcome, houtcome, fun _ h => exchanges_unique h houtcome⟩,
    fun frame extra rest h => (establish_of_answered h).2, ?_, establish_eq_cancelled_iff,
    htrichotomy.imp_right (.imp_right And.left), fun refusal => ?_, fun e => ?_, fun e => ?_⟩
  · refine establish_eq_ok_iff.trans ⟨?_, ?_⟩
    · rintro ⟨frame, extra, rest, h, hanswer⟩
      obtain ⟨body, rfl⟩ := Handshake.ofFrame_eq_ok_iff.mp hanswer
      exact ⟨body, extra, rest, h⟩
    · rintro ⟨body, extra, rest, h⟩
      exact ⟨_, extra, rest, h, Handshake.ofFrame_eq_ok_iff.mpr ⟨body, rfl⟩⟩
  · refine establish_eq_error_iff.trans ⟨?_, ?_⟩
    · rintro (⟨frame, extra, rest, h, hanswer⟩ | ⟨cause, heq, -⟩)
      · obtain ⟨hrequested, flag, text, more, hflag, htext, rfl⟩ :=
          Handshake.ofFrame_eq_refusal_iff.mp hanswer
        exact ⟨hrequested, flag, text, more, extra, rest, hflag, htext, h⟩
      · cases heq
    · rintro ⟨hrequested, flag, text, more, extra, rest, hflag, htext, h⟩
      exact .inl ⟨_, extra, rest, h, Handshake.ofFrame_eq_refusal_iff.mpr
        ⟨hrequested, flag, text, more, hflag, htext, rfl⟩⟩
  · refine establish_eq_error_iff.trans ⟨?_, ?_⟩
    · rintro (⟨frame, extra, rest, h, hanswer⟩ | ⟨cause, heq, -⟩)
      · exact ⟨frame, extra, rest, h, Handshake.ofFrame_eq_decode_iff.mp hanswer⟩
      · cases heq
    · rintro ⟨frame, extra, rest, h, hunreadable⟩
      exact .inl ⟨frame, extra, rest, h, Handshake.ofFrame_eq_decode_iff.mpr hunreadable⟩
  · refine establish_eq_error_iff.trans ⟨?_, fun h => .inr ⟨e, rfl, h⟩⟩
    rintro (⟨frame, -, -, -, hanswer⟩ | ⟨cause, heq, h⟩)
    · exact absurd hanswer Handshake.ofFrame_ne_transport
    · cases heq
      exact h

/-- A time that is set. -/
def hurried : Config :=
  { Config.default with timeout := some 100 }

/-- A server that takes the first seven octets after twenty milliseconds and the others after twenty
more, and what it sends then. -/
def reluctant (output : List (Pause Bytes)) : Counterpart where
  intake := [.ends (.ok 7) 20, .ends (.ok 7) 20]
  output := output

/-- How a server of another version answers. -/
def refusalOfOther : HandshakeError where
  requested := Config.default.version
  serverVersion := ⟨2, 0, 0⟩
  explanation := none

/-- The refusal in pieces, with the beginning of something else behind it. -/
def refusalInPieces : List (Pause Bytes) :=
  [.ends (.ok [8, 0, 0]) 5, .ends (.ok [0, 0, 2, 0]) 5, .ends (.ok [0, 0, 0, 0, 101, 9, 9]) 5]

/-- An acceptance whose second piece comes after so many milliseconds. -/
def acceptanceInPieces (delay : Nat) : List (Pause Bytes) :=
  [.ends (.ok [2, 0]) 5, .ends (.ok [0, 0, 1, 7, 9]) delay]

theorem establish_outcome_reluctant :
    let refused := untouched (reluctant refusalInPieces)
    let accepted := untouched (reluctant (acceptanceInPieces 55))
    let late := untouched (reluctant (acceptanceInPieces 56))
    establish hurried refused =
        .error (.failed refusalOfOther) (refused.after (establish hurried)) ∧
      (refused.after (establish hurried)).received = [9, 9] ∧
      establish hurried accepted =
        .ok { stream := accepted.after (establish hurried), config := hurried }
          (accepted.after (establish hurried)) ∧
      (accepted.after (establish hurried)).received = [9] ∧
      establish hurried late =
        .error (.failed TransportError.timedOut) (late.after (establish hurried)) := by
  intro refused accepted late
  have htaken : Passes 0 (some 100) 0 (reluctant []).intake ([7] ++ [7]) 40 [] :=
    .cons (by decide) rfl (.cons (by decide) rfl (.refl _ _))
  have hrefused : (reluctant refusalInPieces).Exchanges hurried.timeout 12
      (.ok (Handshake.refusalOctets 0 ⟨2, 0, 0⟩ [101] ++ [], [9, 9], [])) := by
    have harrived : Passes [] (some 100) 40 refusalInPieces
        ([[8, 0, 0], [0, 0, 2, 0]] ++ [[0, 0, 0, 0, 101, 9, 9]]) 55 [] :=
      .cons (by decide) rfl (.cons (by decide) rfl (.cons (by decide) rfl (.refl _ _)))
    exact .answered htaken (by decide) (by decide) harrived
      (Frame.split_eq_incomplete_iff.mp rfl).1 (by decide) rfl
  have haccepted : (reluctant (acceptanceInPieces 55)).Exchanges hurried.timeout 12
      (.ok ([Handshake.accepted, 7], [9], [])) := by
    have harrived : Passes [] (some 100) 40 (acceptanceInPieces 55)
        ([[2, 0]] ++ [[0, 0, 1, 7, 9]]) 100 [] :=
      .cons (by decide) rfl (.cons (by decide) rfl (.refl _ _))
    exact .answered htaken (by decide) (by decide) harrived
      (Frame.split_eq_incomplete_iff.mp rfl).1 (by decide) rfl
  have hlate : (reluctant (acceptanceInPieces 56)).Exchanges hurried.timeout 12
      (.error (.failed .timedOut)) := by
    have harrived : Passes [] (some 100) 40 (acceptanceInPieces 56) [[2, 0]] 45
        [.ends (.ok [0, 0, 1, 7, 9]) 56] := .cons (by decide) rfl (.refl _ _)
    obtain ⟨hframeless, hnonnegative⟩ := Frame.split_eq_incomplete_iff.mp
      (show Frame.split [[2, 0]].flatten = .incomplete from rfl)
    exact .withheld htaken (by decide) (by decide) harrived hframeless hnonnegative
      (.late _ _ _ rfl)
  obtain ⟨-, -, houtcome⟩ := establish_outcome hurried
  obtain ⟨-, hkept, -, -, -, hrefusal, -⟩ := houtcome (reluctant refusalInPieces)
  obtain ⟨-, hkept', hok, -⟩ := houtcome (reluctant (acceptanceInPieces 55))
  obtain ⟨-, -, -, -, -, -, -, hfailed⟩ := houtcome (reluctant (acceptanceInPieces 56))
  refine ⟨(hrefusal refusalOfOther).mpr ⟨rfl, 0, [101], [], [9, 9], [], by decide, rfl, hrefused⟩,
    (hkept _ _ _ hrefused).2.1, hok.mpr ⟨[7], [9], [], haccepted⟩, (hkept' _ _ _ haccepted).2.1,
    (hfailed .timedOut).mpr hlate⟩

end ThinClient.Connection
