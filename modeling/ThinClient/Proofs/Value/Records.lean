import Mathlib.Data.Finset.Card
import Mathlib.Data.List.Induction
import ThinClient.Proofs.Value.Survival

/-!
# Records that are made field by field

A record is made by calls of `Record.set` on one without fields. What it holds then is what the
calls said:

* Its names are the names of the calls, each where it came first (`names_setAll`), and no two of
  them are equal. So there are as many fields as there are different names.
* A name has the value of the last call with it (`get?_setAll`), and a name that was in no call has
  none.

Both follow from what one call does to the names (`names_set`) and to the values (`get?_set`). Names
are compared as they are and not by their ids, which disregard case: names that differ in case only
are two fields with one id.

A record that was made like this survives being written (`Record.setAll_survives`), so that what is
read back holds the same.
-/

namespace ThinClient

namespace Record

variable {V : Type} {r : Record V} {name : String} {value : V}

/-- The record after calls of `set`, from the first to the last. -/
def setAll (r : Record V) (calls : List (String × V)) : Record V :=
  calls.foldl (fun r c => r.set c.1 c.2) r

/-- A record holds what the calls said: different names, each where it came first, and each with the
value of the last call with it. -/
structure Holds (r : Record V) (calls : List (String × V)) : Prop where
  names_nodup : r.names.Nodup
  names_eq : r.names = (calls.map (·.1)).eraseDups
  get?_eq : ∀ name, r.get? name = (calls.reverse.find? (·.1 = name)).map (·.2)
  size_eq : r.size = (calls.map (·.1)).toFinset.card

@[simp] theorem setAll_concat (calls : List (String × V)) (c : String × V) :
    r.setAll (calls ++ [c]) = (r.setAll calls).set c.1 c.2 :=
  List.foldl_concat ..

@[simp] theorem typeName_setAll (calls : List (String × V)) :
    (r.setAll calls).typeName = r.typeName := by
  induction calls using List.reverseRecOn with
  | nil => rfl
  | append_singleton calls c ih => rw [setAll_concat, ← ih, set]

/-! ## Names -/

theorem map_fst_setField (name : String) (value : V) (fields : List (String × V)) :
    (setField name value fields).map (·.1) =
      if name ∈ fields.map (·.1) then fields.map (·.1) else fields.map (·.1) ++ [name] := by
  induction fields with
  | nil => simp [setField]
  | cons f rest ih =>
    by_cases hf : f.1 = name
    · simp [setField, hf]
    · have hmem : name ∈ (f :: rest).map (·.1) ↔ name ∈ rest.map (·.1) := by
        rw [List.map_cons, List.mem_cons, or_iff_right (Ne.symm hf)]
      rw [setField, if_neg hf, List.map_cons, ih]
      simp only [hmem]
      split <;> rfl

/-- A call adds its name at the end, unless it is there already. -/
theorem names_set (r : Record V) (name : String) (value : V) :
    (r.set name value).names = if name ∈ r.names then r.names else r.names ++ [name] :=
  map_fst_setField name value r.fields

theorem nodup_names_set (h : r.names.Nodup) : (r.set name value).names.Nodup := by
  rw [names_set]
  split
  next => exact h
  next hnew =>
    refine List.nodup_append.mpr ⟨h, List.nodup_singleton name, fun n hn m hm => ?_⟩
    rw [List.mem_singleton.mp hm]
    exact fun heq => hnew (heq ▸ hn)

/-- The names of a record are the names of the calls that made it, each where it came first. -/
theorem names_setAll (typeName : String) (calls : List (String × V)) :
    ((empty typeName).setAll calls).names = (calls.map (·.1)).eraseDups := by
  induction calls using List.reverseRecOn with
  | nil => rfl
  | append_singleton calls c ih =>
    rw [setAll_concat, names_set, ih, List.map_append, List.eraseDups_append]
    by_cases hold : c.1 ∈ calls.map (·.1)
    · simp [List.removeAll, hold]
    · simp [List.removeAll, hold, List.eraseDups_cons]

theorem nodup_names_setAll (typeName : String) (calls : List (String × V)) :
    ((empty typeName).setAll calls).names.Nodup := by
  induction calls using List.reverseRecOn with
  | nil => exact List.nodup_nil
  | append_singleton calls c ih =>
    rw [setAll_concat]
    exact nodup_names_set ih

theorem size_eq_length_names (r : Record V) : r.size = r.names.length :=
  (List.length_map ..).symm

/-- There are as many fields as the calls had different names. -/
theorem size_setAll (typeName : String) (calls : List (String × V)) :
    ((empty typeName).setAll calls).size = (calls.map (·.1)).toFinset.card := by
  have hsame : (calls.map (·.1)).toFinset = ((empty typeName).setAll calls).names.toFinset := by
    ext n
    rw [names_setAll, List.mem_toFinset, List.mem_toFinset, List.mem_eraseDups]
  rw [hsame, List.toFinset_card_of_nodup (nodup_names_setAll typeName calls), size_eq_length_names]

/-! ## Values -/

theorem find?_setField (name other : String) (value : V) (fields : List (String × V)) :
    (setField name value fields).find? (·.1 = other) =
      if name = other then some (name, value) else fields.find? (·.1 = other) := by
  induction fields with
  | nil => by_cases h : name = other <;> simp [setField, h]
  | cons f rest ih =>
    obtain ⟨n, v⟩ := f
    by_cases hn : n = name
    · by_cases h : name = other <;> simp [setField, hn, h]
    · rw [setField, if_neg hn, List.find?_cons, List.find?_cons, ih]
      by_cases h : n = other
      · have hne : name ≠ other := fun heq => hn (h.trans heq.symm)
        simp [h, hne]
      · simp [h]

/-- After a call its name has its value, and the other names have what they had. -/
theorem get?_set (r : Record V) (name other : String) (value : V) :
    (r.set name value).get? other = if name = other then some value else r.get? other := by
  rw [get?, set, find?_setField]
  split <;> rfl

/-- A name has the value of the last call with it, and what it had before if there is none. -/
theorem get?_setAll (r : Record V) (calls : List (String × V)) (name : String) :
    (r.setAll calls).get? name =
      ((calls.reverse.find? (·.1 = name)).map (·.2)).or (r.get? name) := by
  induction calls using List.reverseRecOn with
  | nil => rfl
  | append_singleton calls c ih =>
    rw [setAll_concat, get?_set, ih, List.reverse_append, List.reverse_singleton,
      List.singleton_append, List.find?_cons]
    by_cases h : c.1 = name <;> simp [h]

theorem setAll_holds (typeName : String) (calls : List (String × V)) :
    ((empty typeName).setAll calls).Holds calls where
  names_nodup := nodup_names_setAll typeName calls
  names_eq := names_setAll typeName calls
  get?_eq name := (get?_setAll _ calls name).trans (Option.or_none ..)
  size_eq := size_setAll typeName calls

end Record

/-- **A record holds what the calls that made it said**: different names, each where it came first
and with the last value that it was given. It is this record that is read back from its octets, with
and without the type code. -/
theorem Record.setAll_survives (typeName : String) (calls : List (String × WireValue)) :
    let r := (empty typeName).setAll calls
    r.typeName = typeName ∧ r.Holds calls ∧
      (WireValue.complex r).Survives (WireValue.complex r).encode WireValue.decode ∧
      (WireValue.complex r).Survives (WireValue.complex r).encodeBody
        (WireValue.decodeBody .complex) :=
  ⟨typeName_setAll calls, setAll_holds typeName calls, WireValue.encode_survives _,
    WireValue.encodeBody_survives _⟩

/-- Calls with two names that have one id, one of which comes twice. -/
def alikeCalls : List (String × WireValue) :=
  [("Id", .byte 1), ("id", .byte 2), ("Id", .byte 3)]

/-- The record that `alikeCalls` make. -/
def alike : Record WireValue :=
  ⟨"P", [("Id", .byte 3), ("id", .byte 2)]⟩

/-- The octets of `alike` with their type code. -/
def alikeOctets : Bytes :=
  [103, 1, 3, 0, 112, 0, 0, 0, 31, 113, 87, 107, 51, 0, 0, 0, 9, 1, 0, 0, 0, 80, 2, 0, 0, 0, 27, 13,
    0, 0, 9, 2, 0, 0, 0, 73, 100, 1, 3, 27, 13, 0, 0, 9, 2, 0, 0, 0, 105, 100, 1, 2]

theorem Record.setAll_survives_alike :
    nameId "Id" = nameId "id" ∧ alike.names = ["Id", "id"] ∧ alike.get? "Id" = some (.byte 3) ∧
      alike.size = 2 ∧ WireValue.decode (alikeOctets ++ [7]) = .ok (.complex alike) [7] := by
  obtain ⟨-, hholds, hback, -⟩ := Record.setAll_survives "P" alikeCalls
  have hmade : (empty "P").setAll alikeCalls = alike := by cbv
  have hoctets : (WireValue.complex alike).encode = .ok alikeOctets := by cbv
  rw [hmade] at hholds hback
  rw [hoctets] at hback
  refine ⟨by cbv, hholds.names_eq.trans (by cbv), (hholds.get?_eq "Id").trans (by cbv),
    hholds.size_eq.trans (by decide), hback [7]⟩

end ThinClient
