import ThinClient.Proofs.Value.RoundTrip

/-!
# What becomes of a value that is written

A value is written and can be read back, or it is not written at all. It is not written only if
something in it has more octets or elements than a count can say, which is the one thing that can go
wrong with any value (`WireValue.encodeBody_refuses`). `WireValue.Survives` puts the two together,
with the type code (`encode_survives`) and without it (`encodeBody_survives`).

`Refuses` is closed under doing one thing after another, so there is a line for each shape that
octets have.
-/

namespace ThinClient

variable {α β : Type}

/-- Nothing can go wrong but that something has more parts than a count can say. -/
def Refuses (x : Except EncodeError α) : Prop :=
  ∀ e, x = .error e → ∃ what n, e = .tooLarge what n ∧ greatestCount < n

theorem Refuses.pure (a : α) : Refuses (Pure.pure a) := by
  intro e h
  cases h

theorem Refuses.bind {x : Except EncodeError α} {f : α → Except EncodeError β} (hx : Refuses x)
    (hf : ∀ a, Refuses (f a)) : Refuses (x >>= f) := by
  cases x with
  | error _ =>
    intro e h
    cases h
    exact hx _ rfl
  | ok a => exact hf a

theorem encodeLength_refuses (what : String) (n : Nat) : Refuses (encodeLength what n) := by
  intro e h
  rw [encodeLength] at h
  split at h
  next => cases h
  next hn =>
    cases h
    exact ⟨what, n, rfl, Nat.lt_of_not_le hn⟩

theorem encodeText_refuses (s : String) : Refuses (encodeText s) :=
  (encodeLength_refuses _ _).bind fun _ => .pure _

theorem encodeNullableText_refuses (text : Option String) : Refuses (encodeNullableText text) := by
  cases text with
  | none => exact .pure _
  | some s => exact (encodeText_refuses s).bind fun _ => .pure _

theorem encodeArray_refuses (element : α → Bytes) (items : List α) :
    Refuses (encodeArray element items) :=
  (encodeLength_refuses _ _).bind fun _ => .pure _

theorem encodeNullables_refuses {code : TypeCode} {element : α → Except EncodeError Bytes}
    (helement : ∀ a, Refuses (element a)) (items : List (Option α)) :
    Refuses (encodeNullables code element items) := by
  induction items with
  | nil => exact .pure _
  | cons item rest ih =>
    cases item with
    | none => exact ih.bind fun _ => .pure _
    | some a => exact (helement a).bind fun _ => ih.bind fun _ => .pure _

theorem encodeNullableArray_refuses {code : TypeCode} {element : α → Except EncodeError Bytes}
    (helement : ∀ a, Refuses (element a)) (items : List (Option α)) :
    Refuses (encodeNullableArray code element items) :=
  (encodeLength_refuses _ _).bind fun _ =>
    (encodeNullables_refuses helement items).bind fun _ => .pure _

theorem encodeRecord_refuses (typeName : String) (tag count fields : Bytes) :
    Refuses (encodeRecord typeName tag count fields) :=
  (encodeLength_refuses _ _).bind fun _ => .pure _

namespace WireValue

mutual

theorem encodeBody_refuses : (v : WireValue) → Refuses v.encodeBody
  | byte _ | short _ | int _ | long _ | float _ | double _ | char _ | bool _ | uuid _ | date _
  | time _ | timestamp _ | null => .pure _
  | string v => encodeText_refuses v
  | byteArray vs | shortArray vs | intArray vs | longArray vs | floatArray vs | doubleArray vs
  | charArray vs | boolArray vs => encodeArray_refuses _ vs
  | stringArray vs => encodeNullableArray_refuses encodeText_refuses vs
  | uuidArray vs | dateArray vs | timestampArray vs | timeArray vs =>
    encodeNullableArray_refuses (fun _ => .pure _) vs
  | complex ⟨typeName, fields⟩ =>
    (encodeNullableText_refuses _).bind fun _ => (encodeLength_refuses _ _).bind fun _ =>
      (encodeFields_refuses fields).bind fun _ => encodeRecord_refuses typeName _ _ _

theorem encodeFields_refuses : (fields : List (String × WireValue)) → Refuses (encodeFields fields)
  | [] => .pure _
  | (_, v) :: rest =>
    (encodeNullableText_refuses _).bind fun _ => (encodeBody_refuses v).bind fun _ =>
      (encodeFields_refuses rest).bind fun _ => .pure _

end

theorem encode_refuses (v : WireValue) : Refuses v.encode :=
  (encodeBody_refuses v).bind fun _ => .pure _

/-- What is written is read back, whatever follows it, or else it has too many parts for a count
and is not written. -/
def Survives (v : WireValue) (written : Except EncodeError Bytes) (read : Reader WireValue) :
    Prop :=
  match written with
  | .ok octets => ∀ rest, read (octets ++ rest) = .ok v rest
  | .error e => ∃ what n, e = .tooLarge what n ∧ greatestCount < n

theorem encode_survives (v : WireValue) : v.Survives v.encode decode := by
  cases h : v.encode with
  | ok octets => exact encode_takes h
  | error e => exact encode_refuses v e h

theorem encodeBody_survives (v : WireValue) :
    v.Survives v.encodeBody (decodeBody v.typeCode) := by
  cases h : v.encodeBody with
  | ok octets =>
    rw [decodeBody_eq]
    exact encodeBody_takes v h
  | error e => exact encodeBody_refuses v e h

end WireValue

end ThinClient
