import ThinClient.Value.Encode
import ThinClient.Bytes.Reader

/-!
# How readers use their buffer

Seven things that a reader can be trusted with, each closed under the ways in which readers are put
together:

* `Reader.Takes r p a`: from every buffer that starts with `p` the reader takes `p`, whatever
  follows, and gives `a`. This is what a round trip says about a reader.
* `Reader.StaysIn r p`: it takes `p`, or fails before its end.
* `Reader.Extends r`: what the reader gives does not depend on what follows the octets it takes.
* `Reader.AsksForMore r`: all that it finds wrong with a beginning of good octets is that there are
  too few of them.
* `Reader.Forward r`: the reader takes from the front only, so it leaves an end of the buffer.
* `Reader.Yields r R`: what the reader takes and what it gives for that are related by `R`.
* `Reader.AgreeUpTo n r s`: two readers do the same with all buffers of at most `n` octets.

Most readers are put together from reads of as many octets as they know that they need.
`Reader.Direct` is the class of these, and every one of them extends, asks for more and goes
forward.
-/

namespace ThinClient

theorem Except.bind_eq_ok {ε α β : Type} {x : Except ε α} {f : α → Except ε β} {b : β}
    (h : (x >>= f) = .ok b) : ∃ a, x = .ok a ∧ f a = .ok b := by
  cases x with
  | error e => cases h
  | ok a => exact ⟨a, rfl, h⟩

/-- A count is written exactly if it is in the range of a word. -/
theorem encodeLength_eq_ok {what : String} {n : Nat} {p : Bytes}
    (h : encodeLength what n = .ok p) : n ≤ greatestCount ∧ p = LittleEndian.encode 4 n := by
  unfold encodeLength at h
  split at h
  next hn =>
    cases h
    exact ⟨hn, rfl⟩
  next => cases h

/-- Whether the octets have ended before the value did. -/
def DecodeError.isShortage : DecodeError → Bool
  | truncated _ _ => true
  | _ => false

namespace Reader

variable {α β : Type} {r s : Reader α} {f : α → Reader β} {a : α} {b : β}
  {p q rest buffer : Bytes}

/-- Sees to it that so many octets are left, and takes none of them. -/
def require (n : Nat) : Reader Unit := fun buffer =>
  if buffer.length < n then .error (.truncated n buffer.length) buffer else .ok () buffer

theorem bind_apply_ok (h : r buffer = .ok a rest) : (r >>= f) buffer = f a rest := by
  change EStateM.bind r f buffer = _
  rw [EStateM.bind, h]

theorem bind_apply_error {e : DecodeError} (h : r buffer = .error e rest) :
    (r >>= f) buffer = .error e rest := by
  change EStateM.bind r f buffer = _
  rw [EStateM.bind, h]

theorem map_apply_ok (g : α → β) (h : r buffer = .ok a rest) :
    (g <$> r) buffer = .ok (g a) rest := by
  change EStateM.map g r buffer = _
  rw [EStateM.map, h]

theorem map_apply_error {e : DecodeError} (g : α → β) (h : r buffer = .error e rest) :
    (g <$> r) buffer = .error e rest := by
  change EStateM.map g r buffer = _
  rw [EStateM.map, h]

theorem bind_apply_eq_ok (h : (r >>= f) buffer = .ok b rest) :
    ∃ a middle, r buffer = .ok a middle ∧ f a middle = .ok b rest := by
  cases hr : r buffer with
  | ok a middle => exact ⟨a, middle, rfl, (bind_apply_ok hr).symm.trans h⟩
  | error e middle =>
    rw [bind_apply_error hr] at h
    cases h

theorem error_of_map {g : α → β} {e : DecodeError} (h : (g <$> r) buffer = .error e rest) :
    r buffer = .error e rest := by
  cases hr : r buffer with
  | ok a middle =>
    rw [map_apply_ok g hr] at h
    cases h
  | error e' middle =>
    rw [map_apply_error g hr] at h
    cases h
    rfl

theorem length_of_replicate {n : Nat} {as : List α} (h : replicate n r buffer = .ok as rest) :
    as.length = n := by
  induction n generalizing buffer as with
  | zero =>
    cases h
    rfl
  | succ n ih =>
    obtain ⟨a, middle, -, hrest⟩ := bind_apply_eq_ok h
    obtain ⟨others, left, hothers, hpure⟩ := bind_apply_eq_ok hrest
    cases hpure
    exact congrArg (· + 1) (ih hothers)

/-! ## What a reader takes -/

/-- The reader takes exactly these octets, whatever follows them, and gives this value. -/
def Takes (r : Reader α) (octets : Bytes) (a : α) : Prop :=
  ∀ rest, r (octets ++ rest) = .ok a rest

namespace Takes

theorem pure (a : α) : Takes (Pure.pure a) [] a := fun _ => rfl

theorem bind (hr : Takes r p a) (hf : Takes (f a) q b) : Takes (r >>= f) (p ++ q) b := by
  intro rest
  rw [List.append_assoc, bind_apply_ok (hr _), hf]

theorem bind_nil (hr : Takes r p a) (hf : Takes (f a) [] b) : Takes (r >>= f) p b :=
  List.append_nil p ▸ hr.bind hf

theorem map (g : α → β) (hr : Takes r p a) : Takes (g <$> r) p (g a) := by
  intro rest
  change EStateM.map g r _ = _
  rw [EStateM.map, hr]

/-- A check that does not fail takes nothing. -/
theorem check {c : Prop} [Decidable c] {e : DecodeError} {k : Unit → Reader α} (hc : ¬ c)
    (hk : Takes (k ()) p a) : Takes (if c then throw e >>= k else k ()) p a := by
  rwa [if_neg hc]

/-- From the octets alone nothing is left. -/
theorem exactly (h : Takes r p a) : r p = .ok a [] := by
  simpa using h []

end Takes

theorem takes_take (p : Bytes) : Takes (take p.length) p p := by
  intro rest
  simp [take]

theorem takes_word {γ : Type} [Word γ] (c : γ) : Takes (word γ) (Word.encode c) c := by
  have h := (takes_take (Word.encode c)).map (Word.decode γ)
  rw [Word.length_encode, Word.decode_encode] at h
  exact h

theorem encode_octet (b : UInt8) : Word.encode b = [b] := by
  change [UInt8.ofNat b.toNat] = [b]
  rw [UInt8.ofNat_toNat]

theorem takes_octet (b : UInt8) : Takes (word UInt8) [b] b :=
  encode_octet b ▸ takes_word b

/-- A word stands in front of a buffer, or the buffer is too short for one. -/
theorem word_or_short (γ : Type) [Word γ] (buffer : Bytes) :
    (∃ (c : γ) (rest : Bytes), buffer = Word.encode c ++ rest) ∨
      buffer.length < Word.width γ ∧
        word γ buffer = .error (.truncated (Word.width γ) buffer.length) buffer := by
  by_cases hshort : buffer.length < Word.width γ
  · have htake : take (Word.width γ) buffer = .error (.truncated (Word.width γ) buffer.length)
        buffer := if_pos hshort
    exact .inr ⟨hshort, bind_apply_error htake⟩
  · refine .inl ⟨Word.decode γ (buffer.take (Word.width γ)), buffer.drop (Word.width γ), ?_⟩
    rw [Word.encode_decode _ (List.length_take_of_le (by omega)), List.take_append_drop]

theorem encode_ofNat {n : Nat} (h : n ≤ greatestCount) :
    Word.encode (Int32.ofNat n) = LittleEndian.encode 4 n := by
  have hn : n < 2147483648 := by rw [greatestCount] at h; omega
  change LittleEndian.encode 4 (Int32.ofNat n).toUInt32.toNat = _
  rw [Int32.toUInt32_ofNat', UInt32.toNat_ofNat_of_lt']
  exact Nat.lt_of_lt_of_le hn (by decide)

theorem takes_count {n : Nat} (h : n ≤ greatestCount) :
    Takes length (LittleEndian.encode 4 n) n := by
  have hlt : n < 2147483648 := by rw [greatestCount] at h; omega
  have hint : (Int32.ofNat n).toInt = n := Int32.toInt_ofNat_of_lt hlt
  have hneg : ¬ Int32.ofNat n < 0 := by
    rw [Int32.lt_iff_toInt_lt, hint]
    simp
  intro rest
  rw [← encode_ofNat h, length, bind_apply_ok (takes_word _ rest), if_neg hneg, hint]
  rfl

theorem takes_length {what : String} {n : Nat} (h : encodeLength what n = .ok p) :
    Takes length p n := by
  obtain ⟨hn, rfl⟩ := encodeLength_eq_ok h
  exact takes_count hn

theorem takes_replicate_map {γ : Type} {enc : γ → Bytes} {val : γ → α} {cs : List γ}
    (h : ∀ c ∈ cs, Takes r (enc c) (val c)) :
    Takes (replicate cs.length r) (cs.flatMap enc) (cs.map val) := by
  induction cs with
  | nil => exact .pure []
  | cons c cs ih =>
    rw [List.flatMap_cons]
    refine .bind (h c (by simp)) (.map (val c :: ·) (ih ?_))
    exact fun b hb => h b (by simp [hb])

theorem takes_replicate {enc : α → Bytes} {as : List α} (h : ∀ a ∈ as, Takes r (enc a) a) :
    Takes (replicate as.length r) (as.flatMap enc) as := by
  have hmap : Takes (replicate as.length r) (as.flatMap enc) (as.map id) := takes_replicate_map h
  rwa [List.map_id] at hmap

theorem takes_within (h : r p = .ok a q) : Takes (within p.length r) p a := by
  intro rest
  have htake := takes_take p rest
  rw [within, htake]
  simp only [h]

theorem within_of_error {e : DecodeError} (h : r p = .error e q) (rest : Bytes) :
    within p.length r (p ++ rest) = .error e rest := by
  rw [within, takes_take p rest]
  simp only [h]

/-! ## Failing before the end -/

/-- Whatever follows these octets, the reader takes them, or it fails before it has read on. -/
def StaysIn (r : Reader α) (octets : Bytes) : Prop :=
  ∀ rest, (∃ a, r (octets ++ rest) = .ok a rest) ∨
    ∃ e left, r (octets ++ rest) = .error e (left ++ rest)

theorem Takes.staysIn (h : Takes r p a) : StaysIn r p :=
  fun rest => .inl ⟨a, h rest⟩

theorem StaysIn.replicate {enc : β → Bytes} {as : List β} (h : ∀ a ∈ as, StaysIn r (enc a)) :
    StaysIn (replicate as.length r) (as.flatMap enc) := by
  induction as with
  | nil => exact fun rest => .inl ⟨[], rfl⟩
  | cons a as ih =>
    have ih := ih fun b hb => h b (by simp [hb])
    intro rest
    rw [List.flatMap_cons, List.append_assoc, List.length_cons, Reader.replicate]
    rcases h a (by simp) (as.flatMap enc ++ rest) with ⟨b, hb⟩ | ⟨e, left, he⟩
    · rw [bind_apply_ok hb]
      rcases ih rest with ⟨bs, hbs⟩ | ⟨e, left, he⟩
      · exact .inl ⟨b :: bs, by rw [bind_apply_ok hbs]; rfl⟩
      · exact .inr ⟨e, left, by rw [bind_apply_error he]⟩
    · refine .inr ⟨e, left ++ as.flatMap enc, ?_⟩
      rw [bind_apply_error he, List.append_assoc]

/-! ## What follows does not matter -/

/-- What the reader gives does not depend on what follows the octets it takes. -/
def Extends (r : Reader α) : Prop :=
  ∀ buffer a rest, r buffer = .ok a rest → ∀ more, r (buffer ++ more) = .ok a (rest ++ more)

namespace Extends

theorem pure (a : α) : Extends (Pure.pure a : Reader α) := by
  intro buffer b rest h more
  cases h
  rfl

theorem throw (e : DecodeError) : Extends (MonadExcept.throw e : Reader α) := by
  intro buffer a rest h
  cases h

theorem bind (hr : Extends r) (hf : ∀ a, Extends (f a)) : Extends (r >>= f) := by
  intro buffer b rest h more
  obtain ⟨a, middle, ha, hb⟩ := bind_apply_eq_ok h
  rw [bind_apply_ok (hr _ _ _ ha more), hf a _ _ _ hb more]

theorem map (g : α → β) (hr : Extends r) : Extends (g <$> r) :=
  hr.bind fun _ => .pure _

theorem take (n : Nat) : Extends (take n) := by
  intro buffer a rest h more
  rw [Reader.take] at h ⊢
  split at h
  · cases h
  · rename_i hn
    cases h
    rw [if_neg (by simp; omega), List.take_append_of_le_length (by omega),
      List.drop_append_of_le_length (by omega)]

theorem require (n : Nat) : Extends (require n) := by
  intro buffer u rest h more
  rw [Reader.require] at h ⊢
  split at h
  · cases h
  · rename_i hn
    cases h
    rw [if_neg (by rw [List.length_append]; omega)]

theorem replicate (n : Nat) (hr : Extends r) : Extends (replicate n r) := by
  induction n with
  | zero => exact .pure []
  | succ n ih => exact hr.bind fun a => ih.bind fun as => .pure (a :: as)

theorem within (n : Nat) (r : Reader α) : Extends (within n r) := by
  intro buffer a rest h more
  rw [Reader.within] at h ⊢
  cases htake : Reader.take n buffer with
  | error e rest =>
    rw [htake] at h
    cases h
  | ok part after =>
    rw [htake] at h
    rw [take n _ _ _ htake more]
    dsimp only at h ⊢
    cases hpart : r part with
    | error e rest =>
      rw [hpart] at h
      cases h
    | ok a' rest' =>
      rw [hpart] at h
      cases h
      rfl

/-- Octets from which nothing is left are taken, whatever follows them. -/
theorem takes (hr : Extends r) (h : r p = .ok a []) : Takes r p a :=
  fun more => hr _ _ _ h more

end Extends

/-! ## Beginnings of good octets -/

/-- The reader has failed because it needed more octets than there were. -/
def RanOut (result : EStateM.Result DecodeError Bytes α) : Prop :=
  ∃ requested available left,
    result = .error (.truncated requested available) left ∧ available < requested

/-- What the reader can read with more octets it reads without them, or it runs out of octets. -/
def AsksForMore (r : Reader α) : Prop :=
  ∀ buffer more a rest, r (buffer ++ more) = .ok a rest →
    (∃ left, r buffer = .ok a left ∧ rest = left ++ more) ∨ RanOut (r buffer)

theorem RanOut.bind (h : RanOut (r buffer)) : RanOut ((r >>= f) buffer) := by
  obtain ⟨requested, available, left, herror, hless⟩ := h
  exact ⟨requested, available, left, bind_apply_error herror, hless⟩

namespace AsksForMore

theorem pure (a : α) : AsksForMore (Pure.pure a : Reader α) := by
  intro buffer more b rest h
  cases h
  exact .inl ⟨buffer, rfl, rfl⟩

theorem throw (e : DecodeError) : AsksForMore (MonadExcept.throw e : Reader α) := by
  intro buffer more a rest h
  cases h

theorem bind (hr : AsksForMore r) (hf : ∀ a, AsksForMore (f a)) : AsksForMore (r >>= f) := by
  intro buffer more b rest h
  obtain ⟨a, middle, ha, hb⟩ := bind_apply_eq_ok h
  rcases hr buffer more a middle ha with ⟨left, hleft, rfl⟩ | hout
  · rw [bind_apply_ok hleft]
    exact hf a left more b rest hb
  · exact .inr hout.bind

theorem map (g : α → β) (hr : AsksForMore r) : AsksForMore (g <$> r) :=
  hr.bind fun _ => .pure _

theorem take (n : Nat) : AsksForMore (take n) := by
  intro buffer more octets rest h
  by_cases hn : buffer.length < n
  · exact .inr ⟨n, buffer.length, buffer, by rw [Reader.take, if_pos hn], hn⟩
  · have htake : Reader.take n buffer = .ok (buffer.take n) (buffer.drop n) := by
      rw [Reader.take, if_neg hn]
    cases h.symm.trans (Extends.take n _ _ _ htake more)
    exact .inl ⟨buffer.drop n, htake, rfl⟩

theorem require (n : Nat) : AsksForMore (require n) := by
  intro buffer more u rest h
  by_cases hn : buffer.length < n
  · exact .inr ⟨n, buffer.length, buffer, by rw [Reader.require, if_pos hn], hn⟩
  · have hrequire : Reader.require n buffer = .ok () buffer := by
      rw [Reader.require, if_neg hn]
    cases h.symm.trans (Extends.require n _ _ _ hrequire more)
    exact .inl ⟨buffer, hrequire, rfl⟩

theorem replicate (n : Nat) (hr : AsksForMore r) : AsksForMore (replicate n r) := by
  induction n with
  | zero => exact .pure []
  | succ n ih => exact hr.bind fun a => ih.bind fun as => .pure (a :: as)

/-- What is split off is the same however much follows it, so nothing is asked of the reader that
is given it. -/
theorem within (n : Nat) (r : Reader α) : AsksForMore (within n r) := by
  intro buffer more a rest h
  by_cases hn : buffer.length < n
  · refine .inr ⟨n, buffer.length, buffer, ?_, hn⟩
    rw [Reader.within, Reader.take, if_pos hn]
  · have htake : Reader.take n buffer = .ok (buffer.take n) (buffer.drop n) := by
      rw [Reader.take, if_neg hn]
    rw [Reader.within, Extends.take n _ _ _ htake more] at h
    rw [Reader.within, htake]
    dsimp only at h ⊢
    cases hpart : r (buffer.take n) with
    | ok a' left =>
      rw [hpart] at h
      cases h
      exact .inl ⟨buffer.drop n, rfl, rfl⟩
    | error e left =>
      rw [hpart] at h
      cases h

/-- From less than what it takes, the reader gives nothing. -/
theorem ranOut (hr : AsksForMore r) (h : r p = .ok a []) (hq : q <+: p) (hne : q ≠ p) :
    RanOut (r q) := by
  obtain ⟨more, rfl⟩ := hq
  rcases hr q more a [] h with ⟨left, -, hnil⟩ | hout
  · have hmore : more = [] := (List.append_eq_nil_iff.mp hnil.symm).2
    exact absurd (by rw [hmore, List.append_nil]) hne
  · exact hout

end AsksForMore

/-! ## What a reader leaves -/

/-- What is left of the buffer, whether a reader has given a value or not. -/
def left : EStateM.Result DecodeError Bytes α → Bytes
  | .ok _ rest | .error _ rest => rest

/-- The reader takes octets from the front of the buffer only. -/
def Forward (r : Reader α) : Prop :=
  ∀ buffer, left (r buffer) <:+ buffer

namespace Forward

theorem suffix (hr : Forward r) (h : r buffer = .ok a rest) : rest <:+ buffer := by
  simpa [h, left] using hr buffer

theorem suffix_of_error (hr : Forward r) {e : DecodeError} (h : r buffer = .error e rest) :
    rest <:+ buffer := by
  simpa [h, left] using hr buffer

theorem pure (a : α) : Forward (Pure.pure a : Reader α) := fun _ => List.suffix_rfl

theorem throw (e : DecodeError) : Forward (MonadExcept.throw e : Reader α) :=
  fun _ => List.suffix_rfl

theorem get : Forward (MonadState.get : Reader Bytes) := fun _ => List.suffix_rfl

theorem bind (hr : Forward r) (hf : ∀ a, Forward (f a)) : Forward (r >>= f) := by
  intro buffer
  cases h : r buffer with
  | ok a rest =>
    rw [bind_apply_ok h]
    exact (hf a rest).trans (hr.suffix h)
  | error e rest =>
    have hrest := hr buffer
    rw [bind_apply_error h]
    rwa [h] at hrest

theorem map (g : α → β) (hr : Forward r) : Forward (g <$> r) :=
  hr.bind fun _ => .pure _

theorem check {c : Prop} [Decidable c] {e : DecodeError} {k : Unit → Reader α}
    (hk : Forward (k ())) : Forward (if c then MonadExcept.throw e >>= k else k ()) := by
  split
  · exact (throw e).bind fun _ => hk
  · exact hk

theorem take (n : Nat) : Forward (take n) := by
  intro buffer
  rw [Reader.take]
  split
  · exact List.suffix_rfl
  · exact List.drop_suffix _ _

theorem require (n : Nat) : Forward (require n) := by
  intro buffer
  rw [Reader.require]
  split <;> exact List.suffix_rfl

theorem replicate (n : Nat) (hr : Forward r) : Forward (replicate n r) := by
  induction n with
  | zero => exact .pure []
  | succ n ih => exact hr.bind fun a => ih.bind fun as => .pure (a :: as)

theorem within (n : Nat) (r : Reader α) : Forward (within n r) := by
  intro buffer
  have hrest := Forward.take n buffer
  rw [Reader.within]
  cases h : Reader.take n buffer with
  | error e rest =>
    rw [h] at hrest
    exact hrest
  | ok part rest =>
    rw [h] at hrest
    dsimp only
    cases r part <;> exact hrest

end Forward

/-! ## Readers made of reads -/

/-- The reader is put together from reads of as many octets as it knows that it needs. If there are
enough of them, it fails only for what it has read. -/
inductive Direct : {α : Type} → Reader α → Prop
  | pure {α : Type} (a : α) : Direct (Pure.pure a)
  | fail {α : Type} {e : DecodeError} (h : e.isShortage = false) :
    Direct (MonadExcept.throw e : Reader α)
  | take (n : Nat) : Direct (take n)
  | require (n : Nat) : Direct (require n)
  | bind {α β : Type} {r : Reader α} {f : α → Reader β} :
    Direct r → (∀ a, Direct (f a)) → Direct (r >>= f)

namespace Direct

theorem map (g : α → β) (hr : Direct r) : Direct (g <$> r) :=
  hr.bind fun _ => .pure _

theorem check {c : Prop} [Decidable c] {e : DecodeError} {k : Unit → Reader α}
    (he : e.isShortage = false) (hk : Direct (k ())) :
    Direct (if c then throw e >>= k else k ()) := by
  split
  · exact (fail he).bind fun _ => hk
  · exact hk

theorem word (γ : Type) [Word γ] : Direct (word γ) :=
  (take _).bind fun _ => .pure _

theorem length : Direct length :=
  (word Int32).bind fun _ => .check rfl (.pure _)

theorem replicate (n : Nat) (hr : Direct r) : Direct (replicate n r) := by
  induction n with
  | zero => exact .pure []
  | succ n ih => exact hr.bind fun a => ih.bind fun as => .pure (a :: as)

end Direct

theorem Extends.of_direct (hr : Direct r) : Extends r := by
  induction hr with
  | pure a => exact .pure a
  | fail he => exact .throw _
  | take n => exact .take n
  | require n => exact .require n
  | bind _ _ ihr ihf => exact ihr.bind ihf

theorem AsksForMore.of_direct (hr : Direct r) : AsksForMore r := by
  induction hr with
  | pure a => exact .pure a
  | fail he => exact .throw _
  | take n => exact .take n
  | require n => exact .require n
  | bind _ _ ihr ihf => exact ihr.bind ihf

theorem Forward.of_direct (hr : Direct r) : Forward r := by
  induction hr with
  | pure a => exact .pure a
  | fail he => exact .throw _
  | take n => exact .take n
  | require n => exact .require n
  | bind _ _ ihr ihf => exact ihr.bind ihf

/-! ## What a reader has taken -/

/-- The octets that the reader takes from the front of a buffer and the value that it gives for
them are related. -/
def Yields (r : Reader α) (R : Bytes → α → Prop) : Prop :=
  ∀ buffer a rest, r buffer = .ok a rest → ∃ p, buffer = p ++ rest ∧ R p a

namespace Yields

variable {R : Bytes → α → Prop} {S : Bytes → β → Prop}

theorem pure (h : R [] a) : Yields (Pure.pure a) R := by
  intro buffer b rest hread
  cases hread
  exact ⟨[], rfl, h⟩

theorem throw (e : DecodeError) : Yields (MonadExcept.throw e : Reader α) R := by
  intro buffer a rest hread
  cases hread

theorem bind (hr : Yields r R) (hf : ∀ p a, R p a → Yields (f a) fun q b => S (p ++ q) b) :
    Yields (r >>= f) S := by
  intro buffer b rest hread
  obtain ⟨a, middle, ha, hb⟩ := bind_apply_eq_ok hread
  obtain ⟨p, rfl, hp⟩ := hr _ _ _ ha
  obtain ⟨q, rfl, hq⟩ := hf p a hp _ _ _ hb
  exact ⟨p ++ q, (List.append_assoc _ _ _).symm, hq⟩

theorem map {g : α → β} (hr : Yields r R) (hg : ∀ p a, R p a → S p (g a)) :
    Yields (g <$> r) S :=
  hr.bind fun p a hp => .pure (by rw [List.append_nil]; exact hg p a hp)

theorem mono {R' : Bytes → α → Prop} (hr : Yields r R) (h : ∀ p a, R p a → R' p a) :
    Yields r R' := by
  intro buffer a rest hread
  obtain ⟨p, hp, hR⟩ := hr _ _ _ hread
  exact ⟨p, hp, h p a hR⟩

theorem check {c : Prop} [Decidable c] {e : DecodeError} {k : Unit → Reader α}
    (hk : ¬ c → Yields (k ()) R) :
    Yields (if c then MonadExcept.throw e >>= k else k ()) R := by
  split
  next => exact (throw (R := fun _ _ => False) e).bind fun _ _ h => h.elim
  next hc => exact hk hc

theorem take (n : Nat) : Yields (take n) fun p octets => octets = p ∧ p.length = n := by
  intro buffer octets rest hread
  rw [Reader.take] at hread
  split at hread
  next => cases hread
  next hn =>
    cases hread
    exact ⟨buffer.take n, (List.take_append_drop n buffer).symm, rfl,
      List.length_take_of_le (by omega)⟩

theorem available : Yields available fun p _ => p = [] := by
  intro buffer n rest hread
  cases hread
  exact ⟨[], rfl, rfl⟩

theorem word (γ : Type) [Word γ] : Yields (word γ) fun p c => p = Word.encode c := by
  refine (take _).bind fun p octets hp => .pure ?_
  obtain ⟨rfl, hlength⟩ := hp
  rw [List.append_nil, Word.encode_decode _ hlength]

theorem length : Yields length fun p n => p = LittleEndian.encode 4 n ∧ n ≤ greatestCount := by
  refine (word Int32).bind fun p n hp => .check fun hneg => .pure ?_
  rw [Int32.lt_iff_toInt_lt] at hneg
  have hlt := n.toInt_lt
  have hle : n.toInt.toNat ≤ greatestCount := by
    rw [greatestCount]
    omega
  have hback : Int32.ofNat n.toInt.toNat = n := by
    rw [← Int32.toInt_inj, Int32.toInt_ofNat_of_lt (by omega)]
    have hnonneg : 0 ≤ n.toInt := by simpa using hneg
    omega
  rw [List.append_nil, hp, ← encode_ofNat hle, hback]
  exact ⟨rfl, hle⟩

theorem within (n : Nat) (r : Reader α) :
    Yields (within n r) fun p a => p.length = n ∧ ∃ rest, r p = .ok a rest := by
  intro buffer a rest hread
  rw [Reader.within] at hread
  cases htake : Reader.take n buffer with
  | error e rest =>
    rw [htake] at hread
    cases hread
  | ok part after =>
    obtain ⟨p, rfl, rfl, hlength⟩ := take n _ _ _ htake
    rw [htake] at hread
    dsimp only at hread
    split at hread
    next a' left hpart =>
      cases hread
      exact ⟨part, rfl, hlength, left, hpart⟩
    next => cases hread

/-- A relation that is kept from element to element is kept by all of them together. -/
theorem replicate {R : Bytes → List α → Prop} {E : Bytes → α → Prop} (n : Nat)
    (hnil : R [] []) (hcons : ∀ p a q as, E p a → R q as → R (p ++ q) (a :: as))
    (hr : Yields r E) : Yields (replicate n r) fun p as => as.length = n ∧ R p as := by
  induction n with
  | zero => exact .pure ⟨rfl, hnil⟩
  | succ n ih =>
    refine hr.bind fun p a hp => ih.map fun q as hq => ?_
    exact ⟨congrArg (· + 1) hq.1, hcons p a q as hp hq.2⟩

end Yields

/-! ## Readers that agree on short buffers -/

/-- The readers do the same with every buffer of at most so many octets. -/
def AgreeUpTo (n : Nat) (r s : Reader α) : Prop :=
  ∀ buffer, buffer.length ≤ n → r buffer = s buffer

namespace AgreeUpTo

variable {n : Nat} {g : α → Reader β}

theorem refl (n : Nat) (r : Reader α) : AgreeUpTo n r r := fun _ _ => rfl

theorem bind (hr : AgreeUpTo n r s) (hs : Forward s) (hf : ∀ a, AgreeUpTo n (f a) (g a)) :
    AgreeUpTo n (r >>= f) (s >>= g) := by
  intro buffer hb
  cases h : s buffer with
  | ok a rest =>
    rw [bind_apply_ok h, bind_apply_ok ((hr buffer hb).trans h)]
    exact hf a rest (Nat.le_trans (hs.suffix h).length_le hb)
  | error e rest => rw [bind_apply_error h, bind_apply_error ((hr buffer hb).trans h)]

theorem map (g : α → β) (hr : AgreeUpTo n r s) (hs : Forward s) :
    AgreeUpTo n (g <$> r) (g <$> s) :=
  hr.bind hs fun _ => .refl n _

theorem check {c : Prop} [Decidable c] {e : DecodeError} {k l : Unit → Reader α}
    (hk : AgreeUpTo n (k ()) (l ())) :
    AgreeUpTo n (if c then throw e >>= k else k ()) (if c then throw e >>= l else l ()) := by
  split
  · exact fun _ _ => rfl
  · exact hk

theorem replicate (k : Nat) (hr : AgreeUpTo n r s) (hs : Forward s) :
    AgreeUpTo n (Reader.replicate k r) (Reader.replicate k s) := by
  induction k with
  | zero => exact .refl n _
  | succ k ih => exact hr.bind hs fun a => ih.bind (hs.replicate k) fun as => .refl n _

theorem within (k : Nat) (hr : AgreeUpTo n r s) :
    AgreeUpTo n (Reader.within k r) (Reader.within k s) := by
  intro buffer hb
  rw [Reader.within, Reader.within]
  cases h : Reader.take k buffer with
  | error e rest => rfl
  | ok part rest =>
    have hpart : part.length ≤ n := by
      rw [Reader.take] at h
      split at h
      · cases h
      · cases h
        exact Nat.le_trans (List.length_take_le' _ _) hb
    simp only [hr part hpart]

end AgreeUpTo

end Reader

end ThinClient
