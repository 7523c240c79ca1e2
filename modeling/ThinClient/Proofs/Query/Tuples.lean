import ThinClient.Proofs.Query.Columns

/-!
# Rows read as tuples

A row is read as a tuple from left to right, in one pass over its values and with a count of the
position. A single column is looked up by its position. The two agree on every row, also where it is
too short and has values of other types than expected: the tuple is what the single columns are, and
if it cannot be read, then for the reason for which the first column cannot.

* `Tuple.inOrder` evaluates the elements of a tuple one after the other. It gives a tuple if every
  element is given (`inOrder_eq_ok_iff`), and else the failure of the first one that is not
  (`inOrder_eq_error_iff`).
* `Tuple.read_eq_inOrder`: the pass over the values evaluates each element at its position.
* `Row.decodeWith_eq_inOrder` is this for rows, and `Row.decodeWith_tryRead` what it comes to:
  **reading a tuple is reading its columns in order**, whatever the types of the elements are.
-/

namespace ThinClient

universe u

variable {κ : Type u} {F : κ → Type}

/-! ## Elements one after the other -/

namespace Tuple

variable {ε : Type} {k : κ} {types rest : List κ} {e : ε}

/-- The element at a place. -/
def get : {types : List κ} → Tuple F types → (i : Fin types.length) → F (types.get i)
  | _ :: _, t, ⟨0, _⟩ => t.1
  | _ :: _, t, ⟨i + 1, h⟩ => get t.2 ⟨i, Nat.lt_of_succ_lt_succ h⟩

/-- Evaluates the elements of a tuple one after the other, up to the first that fails. -/
def inOrder : (types : List κ) → ((i : Fin types.length) → Except ε (F (types.get i))) →
    Except ε (Tuple F types)
  | [], _ => .ok ()
  | _ :: rest, element => do
    let a ← element 0
    return (a, ← inOrder rest fun i => element i.succ)

theorem inOrder_cons_eq_ok_iff
    {element : (i : Fin (k :: rest).length) → Except ε (F ((k :: rest).get i))}
    {t : Tuple F (k :: rest)} :
    inOrder (k :: rest) element = .ok t ↔
      element 0 = .ok t.1 ∧ inOrder rest (fun i => element i.succ) = .ok t.2 := by
  obtain ⟨a, t⟩ := t
  rw [inOrder]
  cases element 0 with
  | error e => exact ⟨fun h => (by cases h), fun h => (by cases h.1)⟩
  | ok b =>
    cases inOrder rest fun i => element i.succ with
    | error e => exact ⟨fun h => (by cases h), fun h => (by cases h.2)⟩
    | ok t' =>
      constructor
      · rintro ⟨⟩
        exact ⟨rfl, rfl⟩
      · rintro ⟨⟨⟩, ⟨⟩⟩
        rfl

theorem inOrder_cons_eq_error_iff
    {element : (i : Fin (k :: rest).length) → Except ε (F ((k :: rest).get i))} :
    inOrder (k :: rest) element = .error e ↔
      element 0 = .error e ∨
        (∃ a, element 0 = .ok a) ∧ inOrder rest (fun i => element i.succ) = .error e := by
  rw [inOrder]
  cases element 0 with
  | error e' =>
    constructor
    · rintro ⟨⟩
      exact .inl rfl
    · rintro (⟨⟨⟩⟩ | ⟨⟨a, ⟨⟩⟩, -⟩)
      rfl
  | ok b =>
    cases inOrder rest fun i => element i.succ with
    | error e' =>
      constructor
      · rintro ⟨⟩
        exact .inr ⟨⟨b, rfl⟩, rfl⟩
      · rintro (⟨⟨⟩⟩ | ⟨-, ⟨⟩⟩)
        rfl
    | ok t' =>
      constructor
      · rintro ⟨⟩
      · rintro (⟨⟨⟩⟩ | ⟨-, ⟨⟩⟩)

/-- A tuple is given if all its elements are. -/
theorem inOrder_eq_ok_iff {element : (i : Fin types.length) → Except ε (F (types.get i))}
    {t : Tuple F types} : inOrder types element = .ok t ↔ ∀ i, element i = .ok (t.get i) := by
  induction types with
  | nil => exact ⟨fun _ i => i.elim0, fun _ => rfl⟩
  | cons k rest ih =>
    rw [inOrder_cons_eq_ok_iff, ih]
    constructor
    · rintro ⟨hfirst, hrest⟩
      exact Fin.cases hfirst hrest
    · intro h
      exact ⟨h 0, fun i => h i.succ⟩

/-- If no tuple is given, its failure is that of the first element that fails. -/
theorem inOrder_eq_error_iff {element : (i : Fin types.length) → Except ε (F (types.get i))} :
    inOrder types element = .error e ↔
      ∃ i, element i = .error e ∧ ∀ j < i, ∃ a, element j = .ok a := by
  induction types with
  | nil =>
    constructor
    · rintro ⟨⟩
    · rintro ⟨i, -⟩
      exact i.elim0
  | cons k rest ih =>
    rw [inOrder_cons_eq_error_iff, ih]
    constructor
    · rintro (hfirst | ⟨hfirst, i, hi, hbefore⟩)
      · exact ⟨0, hfirst, fun j hj => absurd hj j.not_lt_zero⟩
      · refine ⟨i.succ, hi, fun j => ?_⟩
        cases j using Fin.cases with
        | zero => exact fun _ => hfirst
        | succ j => exact fun hj => hbefore j (Fin.succ_lt_succ_iff.mp hj)
    · rintro ⟨i, hi, hbefore⟩
      cases i using Fin.cases with
      | zero => exact .inl hi
      | succ i =>
        refine .inr ⟨hbefore 0 i.succ_pos, i, hi, fun j hj => ?_⟩
        exact hbefore j.succ (Fin.succ_lt_succ_iff.mpr hj)

/-! ## Elements from values -/

variable {readAs : (k : κ) → WireValue → Except DecodeError (F k)}

/-- Reads the value at a place, which has this position. -/
def readAt {α : Type} (read : WireValue → Except DecodeError α) (values : List WireValue)
    (place position : Nat) : Except DecodeError α :=
  match values[place]? with
  | some v => read v
  | none => .error (.indexOutOfBounds position)

/-- The pass over the values evaluates each element at its position, of which it keeps count. -/
theorem read_eq_inOrder (types : List κ) (start : Nat) (values : List WireValue) :
    Tuple.read readAs types start values =
      inOrder types fun i => readAt (readAs (types.get i)) values i (start + i) := by
  induction types generalizing start values with
  | nil => rfl
  | cons k rest ih =>
    cases values with
    | nil => rfl
    | cons v values =>
      -- The next place of the rest is the next position of the whole.
      have hrest : (fun i : Fin rest.length =>
          readAt (readAs (rest.get i)) values i (start + 1 + i)) = fun i : Fin rest.length =>
          readAt (readAs ((k :: rest).get i.succ)) (v :: values) i.succ (start + i.succ) := by
        funext i
        rw [Fin.val_succ, Nat.add_right_comm]
        rfl
      rw [Tuple.read, inOrder, ih, hrest]
      rfl

end Tuple

/-! ## Elements from the columns of a row -/

namespace Row

variable {readAs : (k : κ) → WireValue → Except DecodeError (F k)}

theorem tryRead_position {α : Type} (row : Row) (i : Nat)
    (read : WireValue → Except DecodeError α) :
    row.tryRead (.position i) read = Tuple.readAt read row.values i i := by
  by_cases hi : i < row.values.length
  · have hposition : row.position (.position i) = .ok i := position_index_eq_ok_iff.mpr ⟨rfl, hi⟩
    rw [tryRead, get_of_position hposition, Tuple.readAt, List.getElem?_eq_getElem hi]
    rfl
  · have hposition : row.position (.position i) = .error (.indexOutOfBounds i) := if_neg hi
    rw [tryRead, get_of_missing hposition, Tuple.readAt,
      List.getElem?_eq_none (Nat.le_of_not_lt hi)]
    rfl

theorem decodeWith_eq_inOrder (row : Row) (types : List κ) :
    row.decodeWith readAs types =
      Tuple.inOrder types fun i => row.tryRead (.position i) (readAs (types.get i)) := by
  simp only [decodeWith, Tuple.read_eq_inOrder, tryRead_position, Nat.zero_add]

/-- Columns that no element stands for are not looked at, and neither are names. -/
theorem decodeWith_take (row : Row) (types : List κ) (names : List String) :
    decodeWith ⟨names, row.values.take types.length⟩ readAs types =
      row.decodeWith readAs types := by
  have hsame : (fun i : Fin types.length =>
      Tuple.readAt (readAs (types.get i)) (row.values.take types.length) i i) = fun i =>
      Tuple.readAt (readAs (types.get i)) row.values i i := by
    funext i
    rw [Tuple.readAt, Tuple.readAt, List.getElem?_take_of_lt i.isLt]
  simp only [decodeWith_eq_inOrder, tryRead_position, hsame]

/-- **Reading a row as a tuple is reading its columns in order**, for any types of elements and any
way in which values are read as these. So the tuple has what the single columns give, exactly if all
of them give something. Otherwise the error is that of the first column that gives none. Columns
beyond the tuple do not matter. -/
theorem decodeWith_tryRead (readAs : (k : κ) → WireValue → Except DecodeError (F k)) (row : Row)
    (types : List κ) :
    (row.decodeWith readAs types =
      Tuple.inOrder types fun i => row.tryRead (.position i) (readAs (types.get i))) ∧
    (∀ t, row.decodeWith readAs types = .ok t ↔
      ∀ i : Fin types.length,
        row.tryRead (.position i) (readAs (types.get i)) = .ok (t.get i)) ∧
    (∀ e, row.decodeWith readAs types = .error e ↔
      ∃ i : Fin types.length, row.tryRead (.position i) (readAs (types.get i)) = .error e ∧
        ∀ j < i, ∃ a, row.tryRead (.position j) (readAs (types.get j)) = .ok a) ∧
    (∀ names, decodeWith ⟨names, row.values.take types.length⟩ readAs types =
      row.decodeWith readAs types) ∧
    ∀ columns, row.decode columns =
      Tuple.inOrder columns fun i => row.tryGet (.position i) (columns.get i) := by
  refine ⟨decodeWith_eq_inOrder row types, fun t => ?_, fun e => ?_, decodeWith_take row types,
    fun columns => decodeWith_eq_inOrder row columns⟩
  · rw [decodeWith_eq_inOrder]
    exact Tuple.inOrder_eq_ok_iff
  · rw [decodeWith_eq_inOrder]
    exact Tuple.inOrder_eq_error_iff

/-- The row is too short for its third column, but the second one is null where a text is
expected. -/
example : decode ⟨[], [.long 1, .null]⟩ [.long, .string, .int] = .error .null := rfl

end Row

end ThinClient
