import ThinClient.Proofs.Value.RoundTrip
import ThinClient.Proofs.Value.Spelling
import ThinClient.Protocol.Handshake

/-!
# Answers to a handshake

The first frame that comes back decides about a handshake: it accepts, it refuses and says why, or
it is no answer at all.

* `Handshake.ofFrame_eq_ok_iff`: a frame accepts exactly if it begins with the octet 1.
* `Handshake.ofFrame_eq_refusal_iff`: it refuses exactly if another octet, a version and a text or
  null are in front.
* `Handshake.ofFrame_eq_decode_iff`: all others are no answer, and `Handshake.Unreadable` says why.
-/

namespace ThinClient.Handshake

open Reader

variable {requested : Version} {frame : Bytes}

/-- A version as it is written. -/
def versionOctets (version : Version) : Bytes :=
  Word.encode version.major ++ (Word.encode version.minor ++ Word.encode version.patch)

theorem length_request (version : Version) : (request version).length = 12 := by
  simp [request, Word.length_encode, Word.width]

theorem readVersion_takes (version : Version) :
    Takes readVersion (versionOctets version) version :=
  (takes_word _).bind <| (takes_word _).bind <| (takes_word _).bind_nil (.pure _)

theorem readVersion_yields : Yields readVersion fun p version => p = versionOctets version := by
  refine (Yields.word Int16).bind fun p major hp => ?_
  refine (Yields.word Int16).bind fun q minor hq => ?_
  refine (Yields.word Int16).bind fun r patch hr => ?_
  exact .pure (by rw [hp, hq, hr, List.append_nil, versionOctets])

theorem readAnswer_takes_accepted : Takes (readAnswer requested) [accepted] none := by
  refine (takes_octet accepted).bind_nil ?_
  rw [if_pos rfl]
  exact .pure _

/-- How a refusal is written. -/
def refusalOctets (flag : UInt8) (serverVersion : Version) (text : Bytes) : Bytes :=
  [flag] ++ (versionOctets serverVersion ++ text)

theorem readAnswer_takes_refusal {flag : UInt8} {serverVersion : Version}
    {explanation : Option String} {text : Bytes} (hflag : flag ≠ accepted)
    (h : encodeNullableText explanation = .ok text) :
    Takes (readAnswer requested) (refusalOctets flag serverVersion text)
      (some { requested, serverVersion, explanation }) := by
  refine (takes_octet flag).bind ?_
  rw [if_neg hflag]
  exact (readVersion_takes serverVersion).bind <|
    (WireValue.encodeNullableText_takes h).bind_nil (.pure _)

/-- An answer that is read begins with the octet that accepts, or is written as a refusal. -/
theorem readAnswer_yields : Yields (readAnswer requested) fun p answer =>
    p = [accepted] ∧ answer = none ∨
      ∃ flag serverVersion explanation text, flag ≠ accepted ∧
        encodeNullableText explanation = .ok text ∧ p = refusalOctets flag serverVersion text ∧
        answer = some { requested, serverVersion, explanation } := by
  refine (Yields.word UInt8).bind fun p flag hp => ?_
  rw [encode_octet] at hp
  subst hp
  split
  next hflag => exact .pure (.inl ⟨by rw [hflag, List.append_nil], rfl⟩)
  next hflag =>
    refine readVersion_yields.bind fun p serverVersion hp => ?_
    refine WireValue.readNullableText_yields.bind fun q explanation hq => ?_
    refine .pure (.inr ⟨flag, serverVersion, explanation, q, hflag, hq, ?_, rfl⟩)
    rw [hp, List.append_nil, refusalOctets]

theorem ofFrame_eq_ok_iff :
    ofFrame requested frame = .ok () ↔ ∃ body, frame = accepted :: body := by
  constructor
  · intro h
    unfold ofFrame at h
    split at h
    next rest hread =>
      obtain ⟨p, rfl, hp | ⟨_, _, _, _, -, -, -, hsome⟩⟩ := readAnswer_yields _ _ _ hread
      · exact ⟨rest, by rw [hp.1]; rfl⟩
      · cases hsome
    next => cases h
    next => cases h
  · rintro ⟨body, rfl⟩
    have hread : readAnswer requested (accepted :: body) = .ok none body :=
      readAnswer_takes_accepted body
    simp only [ofFrame, hread]

/-- A frame refuses the handshake if it has another first octet, a version, and a text or null. -/
theorem ofFrame_eq_refusal_iff {refusal : HandshakeError} :
    ofFrame requested frame = .error refusal ↔
      refusal.requested = requested ∧ ∃ flag text more, flag ≠ accepted ∧
        encodeNullableText refusal.explanation = .ok text ∧
        frame = refusalOctets flag refusal.serverVersion text ++ more := by
  constructor
  · intro h
    unfold ofFrame at h
    split at h
    next => cases h
    next found rest hread =>
      cases h
      obtain ⟨p, rfl, hp | ⟨flag, serverVersion, explanation, text, hflag, htext, hp, hsome⟩⟩ :=
        readAnswer_yields _ _ _ hread
      · cases hp.2
      · cases hsome
        exact ⟨rfl, flag, text, rest, hflag, htext, by rw [hp]⟩
    next => cases h
  · rintro ⟨rfl, flag, text, more, hflag, htext, rfl⟩
    have hread : readAnswer refusal.requested
        (refusalOctets flag refusal.serverVersion text ++ more) = .ok (some refusal) more :=
      readAnswer_takes_refusal hflag htext more
    simp only [ofFrame, hread]

/-! ## Frames that are no answer -/

/-- Why a frame is no answer to a handshake: nothing is in it, it ends within a version, or what
stands behind the version is no text. -/
inductive Unreadable : Bytes → DecodeError → Prop
  | empty : Unreadable [] (.truncated 1 0)
  | cutOff (flag : UInt8) (body : Bytes) (hflag : flag ≠ accepted) (hshort : body.length < 6) :
      Unreadable (flag :: body) (.truncated 2 (body.length % 2))
  | noText (flag : UInt8) (version : Version) (text later : Bytes) (e : DecodeError)
      (hflag : flag ≠ accepted) (htext : WireValue.readNullableText text = .error e later) :
      Unreadable (refusalOctets flag version text) e

theorem readAnswer_of_other {flag : UInt8} {body : Bytes} (hflag : flag ≠ accepted) :
    readAnswer requested (flag :: body) =
      (do
        let serverVersion ← readVersion
        let explanation ← WireValue.readNullableText
        return some ({ requested, serverVersion, explanation } : HandshakeError)) body := by
  have hoctet : Reader.word UInt8 (flag :: body) = .ok flag body := takes_octet flag body
  rw [readAnswer, bind_apply_ok hoctet, if_neg hflag]

/-- A version is three words of two octets each. -/
theorem version_or_short (buffer : Bytes) :
    (∃ version text, buffer = versionOctets version ++ text) ∨
      buffer.length < 6 ∧
        ∃ later, readVersion buffer = .error (.truncated 2 (buffer.length % 2)) later := by
  have hwidth : Word.width Int16 = 2 := rfl
  have hlength (c : Int16) : (Word.encode c).length = 2 := Word.length_encode c
  obtain ⟨major, rest, rfl⟩ | ⟨hshort, hread⟩ := word_or_short Int16 buffer
  · obtain ⟨minor, rest, rfl⟩ | ⟨hshort, hread⟩ := word_or_short Int16 rest
    · obtain ⟨patch, rest, rfl⟩ | ⟨hshort, hread⟩ := word_or_short Int16 rest
      · exact .inl ⟨⟨major, minor, patch⟩, rest, by simp [versionOctets]⟩
      · refine .inr ⟨by simp [hlength]; omega, rest, ?_⟩
        rw [readVersion, bind_apply_ok (takes_word major _), bind_apply_ok (takes_word minor _),
          bind_apply_error hread, hwidth]
        simp [hlength]
        omega
    · refine .inr ⟨by simp [hlength]; omega, rest, ?_⟩
      rw [readVersion, bind_apply_ok (takes_word major _), bind_apply_error hread, hwidth]
      simp [hlength]
      omega
  · refine .inr ⟨by omega, buffer, ?_⟩
    rw [readVersion, bind_apply_error hread, hwidth, Nat.mod_eq_of_lt (hwidth ▸ hshort)]

/-- An answer is not read exactly if the frame is none. -/
theorem exists_readAnswer_eq_error_iff {e : DecodeError} :
    (∃ later, readAnswer requested frame = .error e later) ↔ Unreadable frame e := by
  constructor
  · rintro ⟨later, h⟩
    cases frame with
    | nil =>
      cases h
      exact .empty
    | cons flag body =>
      by_cases hflag : flag = accepted
      · subst hflag
        have hread : readAnswer requested (accepted :: body) = .ok none body :=
          readAnswer_takes_accepted body
        rw [hread] at h
        cases h
      · rw [readAnswer_of_other hflag] at h
        obtain ⟨version, text, rfl⟩ | ⟨hshort, rest, hread⟩ := version_or_short body
        · rw [bind_apply_ok (readVersion_takes version text)] at h
          cases htext : WireValue.readNullableText text with
          | ok explanation rest =>
            rw [bind_apply_ok htext] at h
            cases h
          | error e' rest =>
            rw [bind_apply_error htext] at h
            cases h
            exact .noText flag version text later e hflag htext
        · rw [bind_apply_error hread] at h
          cases h
          exact .cutOff flag body hflag hshort
  · intro h
    cases h with
    | empty => exact ⟨[], rfl⟩
    | cutOff flag body hflag hshort =>
      obtain ⟨version, text, rfl⟩ | ⟨-, rest, hread⟩ := version_or_short body
      · simp [versionOctets, Word.width] at hshort
        omega
      · exact ⟨rest, (readAnswer_of_other hflag).trans (bind_apply_error hread)⟩
    | noText flag version text rest e hflag htext =>
      have hcons : refusalOctets flag version text = flag :: (versionOctets version ++ text) := rfl
      refine ⟨rest, ?_⟩
      rw [hcons, readAnswer_of_other hflag, bind_apply_ok (readVersion_takes version text),
        bind_apply_error htext]

/-- A frame that is no answer is reported as what is wrong with its octets. -/
theorem ofFrame_eq_decode_iff {e : DecodeError} :
    ofFrame requested frame = .error e ↔ Unreadable frame e := by
  rw [← @exists_readAnswer_eq_error_iff requested frame e]
  unfold ofFrame
  cases readAnswer requested frame with
  | ok answer later => cases answer <;> simp
  | error e' later => simp

theorem ofFrame_ne_transport {e : TransportError} : ofFrame requested frame ≠ .error e := by
  unfold ofFrame
  cases readAnswer requested frame with
  | ok answer later => cases answer <;> simp
  | error e' later => simp

theorem isFatal_of_ofFrame {e : Error} (h : ofFrame requested frame = .error e) :
    e.isFatal = true := by
  unfold ofFrame at h
  split at h
  next => cases h
  next => cases h; rfl
  next => cases h; rfl

end ThinClient.Handshake
