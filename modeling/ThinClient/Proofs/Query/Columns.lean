import ThinClient.Proofs.Query.Volume

/-!
# The columns of a row

A row has its values in a list of its own, and shares the list of its names with all rows of its
cursor. A value is looked up by a position that was found in the one list or in the other, so what
is found depends on how long both are.

* `Query.readHeader` takes the columns from the answer to a query, `Query.readWidth` the number of
  columns that it declares. There are as many names as columns, or none if the query did not ask for
  them (`readHeader_eq_ok`).
* `Row.IsUnder` says that a row has these columns. A turn of a cursor gives such a row and leaves
  the columns alone (`Cursor.row_of_advance`, `Cursor.columns_of_advance`), so the columns are those
  of the answer and all rows have them (`Query.Drawn.shows`).
* `Row.Answers` is what follows for looking up: a position is good exactly if it is below the number
  of columns, a name exactly if names were asked for and some column is called so, and the first of
  these columns is found. No position that is found is out of bounds (`Row.IsUnder.answers`).
* `Query.Drawn.rows_answer` is this for every row that a cursor gives.
-/

namespace ThinClient

open Connection Reader

/-! ## Looking up a column -/

namespace Row

variable {row : Row} {column : ColumnRef} {i j : Nat} {name : String} {v : WireValue}
  {e : DecodeError} {named : Bool} {columns : Columns}

/-- The first column that is called so, if upper and lower case are the same. -/
def IsFirst (row : Row) (name : String) (i : Nat) : Prop :=
  ∃ h : i < row.names.length, equalIgnoringCase name row.names[i] ∧
    ∀ j, ∀ hj : j < i, ¬ equalIgnoringCase name row.names[j]

/-- A row with these columns. -/
structure IsUnder (row : Row) (columns : Columns) : Prop where
  names_eq : row.names = columns.names
  length_values : row.values.length = columns.width

/-- A row with these columns, which have names if they were asked for, and what it answers: to a
position or a name that it has, the value that is there, and else that it does not have it. -/
structure Answers (row : Row) (named : Bool) (columns : Columns) : Prop
    extends row.IsUnder columns where
  length_names : row.names.length = if named then row.values.length else 0
  in_bounds : ∀ column i, row.position column = .ok i → i < row.values.length
  position_found : ∀ i, (∃ v, row.get (.position i) = .ok v) ↔ i < row.values.length
  position_value : ∀ i v, row.get (.position i) = .ok v → row.values[i]? = some v
  position_error : ∀ i e, row.get (.position i) = .error e → e = .indexOutOfBounds i
  name_found : ∀ name, (∃ v, row.get (.name name) = .ok v) ↔
    named = true ∧ ∃ n ∈ columns.names, equalIgnoringCase name n
  name_value : ∀ name v, row.get (.name name) = .ok v →
    ∃ i, row.IsFirst name i ∧ row.values[i]? = some v
  name_error : ∀ name e, row.get (.name name) = .error e → e = .columnNotFound name

theorem position_index_eq_ok_iff :
    row.position (.position i) = .ok j ↔ i = j ∧ i < row.values.length := by
  simp only [position]
  split <;> simp [*]

theorem position_index_eq_error (h : row.position (.position i) = .error e) :
    e = .indexOutOfBounds i := by
  simp only [position] at h
  split at h
  · cases h
  · cases h
    rfl

theorem position_name_eq_ok_iff : row.position (.name name) = .ok i ↔ row.IsFirst name i := by
  rw [IsFirst, ← List.findIdx?_eq_some_iff_getElem]
  simp only [position]
  split <;> simp [*]

theorem position_name_eq_error (h : row.position (.name name) = .error e) :
    e = .columnNotFound name := by
  simp only [position] at h
  split at h
  · cases h
  · cases h
    rfl

/-- There is a first column that is called so if there is one at all. -/
theorem exists_isFirst_iff :
    (∃ i, row.IsFirst name i) ↔ ∃ n ∈ row.names, equalIgnoringCase name n := by
  simp only [IsFirst, ← List.findIdx?_eq_some_iff_getElem]
  rw [← Option.isSome_iff_exists, List.findIdx?_isSome, List.any_eq_true]

theorem get_of_position (h : row.position column = .ok i) :
    row.get column =
      match row.values[i]? with
      | some v => .ok v
      | none => .error (.indexOutOfBounds i) := by
  rw [get, h]
  rfl

theorem get_of_missing (h : row.position column = .error e) : row.get column = .error e := by
  rw [get, h]
  rfl

/-- Every position that is found is one of a value. -/
def InBounds (row : Row) : Prop :=
  ∀ column i, row.position column = .ok i → i < row.values.length

theorem get_eq_ok_iff :
    row.get column = .ok v ↔ ∃ i, row.position column = .ok i ∧ row.values[i]? = some v := by
  cases hposition : row.position column with
  | error e => simp [get_of_missing hposition]
  | ok i =>
    rw [get_of_position hposition]
    cases hvalue : row.values[i]? <;> simp [hvalue]

theorem InBounds.get_eq_error (hrow : row.InBounds) (h : row.get column = .error e) :
    row.position column = .error e := by
  cases hposition : row.position column with
  | error e' =>
    rw [get_of_missing hposition] at h
    cases h
    rfl
  | ok i =>
    rw [get_of_position hposition, List.getElem?_eq_getElem (hrow column i hposition)] at h
    cases h

theorem InBounds.exists_get_iff (hrow : row.InBounds) :
    (∃ v, row.get column = .ok v) ↔ ∃ i, row.position column = .ok i := by
  constructor
  · rintro ⟨v, h⟩
    obtain ⟨i, hposition, -⟩ := get_eq_ok_iff.mp h
    exact ⟨i, hposition⟩
  · rintro ⟨i, h⟩
    exact ⟨_, get_eq_ok_iff.mpr ⟨i, h, List.getElem?_eq_getElem (hrow column i h)⟩⟩

/-- A name that is found has a position among the names, of which there are no more than values. -/
theorem inBounds (h : row.names.length ≤ row.values.length) : row.InBounds := by
  intro column i hposition
  cases column with
  | position =>
    obtain ⟨rfl, hi⟩ := position_index_eq_ok_iff.mp hposition
    exact hi
  | name =>
    obtain ⟨hi, -⟩ := position_name_eq_ok_iff.mp hposition
    exact hi.trans_le h

/-- A row with a value for each column and, if names were asked for, a name for each. -/
theorem IsUnder.answers (hrow : row.IsUnder columns)
    (hnames : columns.names.length = if named then columns.width else 0) :
    row.Answers named columns := by
  rw [← hrow.names_eq, ← hrow.length_values] at hnames
  have hbounds : row.InBounds := by
    refine inBounds ?_
    rw [hnames]
    split <;> omega
  constructor
  case toIsUnder => exact hrow
  case length_names => exact hnames
  case in_bounds => exact hbounds
  case position_found =>
    intro i
    simp [hbounds.exists_get_iff, position_index_eq_ok_iff]
  case position_value =>
    intro i v h
    obtain ⟨j, hj, hv⟩ := get_eq_ok_iff.mp h
    rw [(position_index_eq_ok_iff.mp hj).1, hv]
  case position_error => exact fun i e h => position_index_eq_error (hbounds.get_eq_error h)
  case name_found =>
    intro name
    rw [← hrow.names_eq]
    simp only [hbounds.exists_get_iff, position_name_eq_ok_iff, exists_isFirst_iff]
    refine (and_iff_right_of_imp ?_).symm
    rintro ⟨n, hn, -⟩
    by_contra hunnamed
    rw [if_neg hunnamed, List.length_eq_zero_iff] at hnames
    rw [hnames] at hn
    cases hn
  case name_value =>
    intro name v h
    obtain ⟨i, hi, hv⟩ := get_eq_ok_iff.mp h
    exact ⟨i, position_name_eq_ok_iff.mp hi, hv⟩
  case name_error => exact fun name e h => position_name_eq_error (hbounds.get_eq_error h)

end Row

/-! ## The columns that a cursor has -/

variable {σ : Type} [Peer σ]

namespace Cursor

variable {s after : OpenCursor σ}

/-- A turn that comes to an end leaves the columns alone. -/
theorem columns_of_advance {turn : Turn} (h : advance s = .ok turn after) :
    after.cursor.columns = s.cursor.columns := by
  cases turned_of_advance h with
  | row => rfl
  | fetched hask hload =>
    obtain ⟨rows, rest, -, -, rfl⟩ := load_eq_ok hload
    rfl
  | finished hhalted => exact hhalted.columns_eq

theorem columns_of_stopped {stop : Stop Error} (h : advance s = .error stop after) :
    after.cursor.columns = s.cursor.columns := by
  cases turned_of_advance h with
  | stopped hhalted => exact hhalted.columns_eq

/-- A row that a turn gives has the columns of the cursor. -/
theorem row_of_advance {row : Row} (h : advance s = .ok (.row row) after) :
    row.IsUnder s.cursor.columns := by
  cases turned_of_advance h with
  | row hstate hrows hread => exact ⟨rfl, length_of_replicate hread⟩

variable {α : Type} {read : Row → Except DecodeError α} {turns : Nat} {a : α}

/-- The first row that is read is the next row. -/
theorem nextRow_of_fetchFirst? (h : fetchFirst? read turns s = .ok (some a) after) :
    ∃ row t, nextRow turns s = .ok (some row) t ∧ read row = .ok a := by
  rw [fetchFirst?, bind_apply] at h
  split at h
  next found t hnext =>
    cases found with
    | none => cases h
    | some row =>
      dsimp only at h
      rw [bind_apply] at h
      split at h
      next a' t' hconvert =>
        obtain ⟨hread, rfl⟩ := convert_eq_ok hconvert
        rw [bind_apply] at h
        split at h
        next =>
          cases h
          exact ⟨row, t', hnext, hread⟩
        next => cases h
      next => cases h
  next => cases h

theorem fetchFirst?_of_fetchOne (h : fetchOne read turns s = .ok a after) :
    ∃ t, fetchFirst? read turns s = .ok (some a) t := by
  rw [fetchOne, bind_apply] at h
  split at h
  next found t hfirst =>
    cases found with
    | none => cases h
    | some a' =>
      cases h
      exact ⟨after, hfirst⟩
  next => cases h

end Cursor

namespace Query

variable {q : Query} {client : Client σ} {s after : OpenCursor σ} {draws : List Draw}
  {payload page : Bytes} {columns : Columns} {c cursor : Cursor} {rows : List Row}

/-- Whether names of columns are asked for; the entries of a cache always have them. -/
def asksNames : Query → Bool
  | sqlFields q => q.includeFieldNames
  | _ => true

/-- Takes the columns from the answer to a query, behind the id of the cursor. -/
def readHeader (q : Query) : Reader Columns := do
  let _id ← word Int64
  q.readColumns

/-- Takes the number of columns that the answer to a query declares behind the id of the cursor. An
entry of a cache is a key and a value. -/
def readWidth : Query → Reader Nat
  | sqlFields _ => do
    let _id ← word Int64
    length
  | _ => return 2

/-- There are as many columns as are declared, and as many names if they were asked for. -/
theorem readHeader_eq_ok (h : q.readHeader payload = .ok columns page) :
    (∃ rest, q.readWidth payload = .ok columns.width rest) ∧
      columns.names.length = if q.asksNames then columns.width else 0 := by
  obtain ⟨id, middle, hid, hcolumns⟩ := bind_apply_eq_ok h
  cases q with
  | sqlFields q =>
    obtain ⟨width, rest, hwidth, hnames⟩ := bind_apply_eq_ok hcolumns
    have hread : (sqlFields q).readWidth payload = .ok width rest := by
      rw [readWidth, bind_apply_ok hid, hwidth]
    cases hask : q.includeFieldNames with
    | true =>
      rw [hask] at hnames
      obtain ⟨names, left, hnames, hpure⟩ := bind_apply_eq_ok hnames
      cases hpure
      refine ⟨⟨rest, hread⟩, ?_⟩
      rw [asksNames, hask, if_pos rfl, List.length_map, length_of_replicate hnames]
    | false =>
      rw [hask] at hnames
      cases hnames
      refine ⟨⟨_, hread⟩, ?_⟩
      rw [asksNames, hask]
      rfl
  | sql q | scan q =>
    cases hcolumns
    exact ⟨⟨_, rfl⟩, rfl⟩

/-- A cursor with the columns of the answer to its query, and rows with these columns. -/
structure Shows (q : Query) (client : Client σ) (rows : List Row) (c : Cursor) : Prop where
  header : ∃ payload page, q.answer? client = some payload ∧
    q.readHeader payload = .ok c.columns page
  isUnder : ∀ row ∈ rows, row.IsUnder c.columns

theorem Shows.congr (h : q.Shows client rows c) (hcolumns : cursor.columns = c.columns) :
    q.Shows client rows cursor :=
  ⟨hcolumns ▸ h.header, hcolumns ▸ h.isUnder⟩

theorem Shows.give {row : Row} (h : q.Shows client rows c) (hrow : row.IsUnder c.columns) :
    q.Shows client (rows ++ [row]) c :=
  ⟨h.header, List.forall_mem_append.mpr ⟨h.isUnder, List.forall_mem_singleton.mpr hrow⟩⟩

theorem shows_of_openCursor {opened : Client σ} (hanswer : q.answer? client = some payload)
    (h : q.openCursor client = .ok cursor opened) : q.Shows client [] cursor := by
  obtain ⟨octets, response, hoctets, hsend, htake⟩ := openCursor_eq_ok h
  obtain ⟨id, rest, page, columns, hid, hcolumns, hload, -⟩ := takeFrom_eq_ok htake
  obtain ⟨rows, left, -, -, rfl⟩ := Cursor.load_eq_ok hload
  have hpayload : response.payload = payload := by
    simpa only [answer?, hoctets, hsend, Option.some.injEq] using hanswer
  have hheader : q.readHeader payload = .ok columns page := by
    rw [← hpayload, readHeader, bind_apply_ok hid, hcolumns]
  exact ⟨⟨payload, page, hanswer, hheader⟩, by simp⟩

/-- **Whatever has been done with a cursor, its columns are those of the answer to its query**, and
all rows that it has given have them. -/
theorem Drawn.shows (h : q.Drawn client draws s) :
    q.Shows client (Draw.allRows draws) s.cursor := by
  induction h with
  | opened hanswer hopen => exact shows_of_openCursor hanswer hopen
  | @row earlier payload rows row s after _ hturn ih =>
    rw [allRows_concat, ← List.append_assoc, ← allRows_concat]
    exact (ih.give (Cursor.row_of_advance hturn)).congr (Cursor.columns_of_advance hturn)
  | page _ _ hturn ih =>
    rw [allRows_concat, List.append_nil]
    exact ih.congr (Cursor.columns_of_advance hturn)
  | finished _ hturn ih => exact ih.congr (Cursor.columns_of_advance hturn)
  | stopped _ hturn ih => exact ih.congr (Cursor.columns_of_stopped hturn)
  | closed _ ih => exact ih.congr (Cursor.close_halts _).columns_eq

/-- The columns are the same whatever is done with a cursor. -/
theorem Drawn.columns_eq {other : OpenCursor σ} {more : List Draw} (h : q.Drawn client draws s)
    (hother : q.Drawn client more other) : other.cursor.columns = s.cursor.columns := by
  obtain ⟨payload, page, hanswer, hheader⟩ := h.shows.header
  obtain ⟨payload', page', hanswer', hheader'⟩ := hother.shows.header
  cases hanswer.symm.trans hanswer'
  injection hheader'.symm.trans hheader

/-- A row that a cursor has given answers as the query and its answer say. -/
theorem Drawn.answers_of_mem {row : Row} (h : q.Drawn client draws s)
    (hrow : row ∈ Draw.allRows draws) : row.Answers q.asksNames s.cursor.columns := by
  obtain ⟨payload, page, -, hheader⟩ := h.shows.header
  exact (h.shows.isUnder row hrow).answers (readHeader_eq_ok hheader).2

theorem Drawn.answers_of_nextRow {row : Row} {turns : Nat} (h : q.Drawn client draws s)
    (hnext : Cursor.nextRow turns s = .ok (some row) after) :
    row.Answers q.asksNames s.cursor.columns := by
  obtain ⟨more, hmore, hrows⟩ := h.nextRow turns
  rw [hnext] at hrows
  rw [← h.columns_eq hmore]
  exact hmore.answers_of_mem (by simp [hrows, rowGiven])

theorem Drawn.answers_of_fetchAll {α : Type} {read : Row → Except DecodeError α} {turns : Nat}
    {as : List α} {a : α} (h : q.Drawn client draws s)
    (hall : Cursor.fetchAll read turns s = .ok as after) (ha : a ∈ as) :
    ∃ row, read row = .ok a ∧ row.Answers q.asksNames s.cursor.columns := by
  obtain ⟨more, rows, hmore, hrows, hmap⟩ := h.fetchAll hall
  have hread : .ok a ∈ rows.map read := hmap ▸ List.mem_map_of_mem ha
  obtain ⟨row, hrow, hread⟩ := List.mem_map.mp hread
  rw [← h.columns_eq hmore]
  exact ⟨row, hread, hmore.answers_of_mem (hrows ▸ List.mem_append_right _ hrow)⟩

theorem Drawn.answers_of_fetchFirst? {α : Type} {read : Row → Except DecodeError α} {turns : Nat}
    {a : α} (h : q.Drawn client draws s)
    (hfirst : Cursor.fetchFirst? read turns s = .ok (some a) after) :
    ∃ row, read row = .ok a ∧ row.Answers q.asksNames s.cursor.columns := by
  obtain ⟨row, t, hnext, hread⟩ := Cursor.nextRow_of_fetchFirst? hfirst
  exact ⟨row, hread, h.answers_of_nextRow hnext⟩

/-- **Every row that a cursor gives has as many values as its columns were declared**, and as many
names or none. So no position that is found is out of bounds: a position is good exactly if it is
below the number of the columns, and a name exactly if names were asked for and some column is
called so, and then the first such column is found. -/
theorem Drawn.rows_answer (h : q.Drawn client draws s) :
    (∃ payload page rest, q.answer? client = some payload ∧
      q.readHeader payload = .ok s.cursor.columns page ∧
      q.readWidth payload = .ok s.cursor.columns.width rest) ∧
    (∀ row ∈ Draw.allRows draws, row.Answers q.asksNames s.cursor.columns) ∧
    (∀ turns row after, Cursor.nextRow turns s = .ok (some row) after →
      row.Answers q.asksNames s.cursor.columns) ∧
    ∀ (α : Type) (read : Row → Except DecodeError α) turns after,
      (∀ as, Cursor.fetchAll read turns s = .ok as after →
        ∀ a ∈ as, ∃ row, read row = .ok a ∧ row.Answers q.asksNames s.cursor.columns) ∧
      (∀ a, Cursor.fetchFirst? read turns s = .ok (some a) after →
        ∃ row, read row = .ok a ∧ row.Answers q.asksNames s.cursor.columns) ∧
      (∀ a, Cursor.fetchOne read turns s = .ok a after →
        ∃ row, read row = .ok a ∧ row.Answers q.asksNames s.cursor.columns) := by
  refine ⟨?_, fun row => h.answers_of_mem, fun turns row after => h.answers_of_nextRow,
    fun α read turns after => ⟨fun as hall a => h.answers_of_fetchAll hall,
      fun a => h.answers_of_fetchFirst?, fun a hone => ?_⟩⟩
  · obtain ⟨payload, page, hanswer, hheader⟩ := h.shows.header
    obtain ⟨⟨rest, hwidth⟩, -⟩ := readHeader_eq_ok hheader
    exact ⟨payload, page, rest, hanswer, hheader, hwidth⟩
  · obtain ⟨t, hfirst⟩ := Cursor.fetchFirst?_of_fetchOne hone
    exact h.answers_of_fetchFirst? hfirst

/-- A statement whose columns are named. -/
def plain : Query :=
  .sqlFields { sql := "" }

/-- The server opens cursor 7 with two columns whose names differ in case only, and sends its only
page with its only row. -/
def twins : Client Rehearsal.ScriptedPeer :=
  Fails.answeredBy [{ reply := .response [7, 0, 0, 0, 0, 0, 0, 0, 2, 0, 0, 0, 9, 2, 0, 0, 0, 73, 68,
    9, 2, 0, 0, 0, 105, 100, 1, 0, 0, 0, 1, 3, 1, 4, 0] 0 0 }]

/-- The cursor that `twins` opens. -/
def twinCursor : Cursor :=
  ⟨7, .querySqlFieldsPage, ⟨["ID", "id"], 2⟩, [1, 3, 1, 4, 0], 1, .hasBufferedRows⟩

set_option maxRecDepth 4096 in
/-- The value of the first column is found under either name, and the other one at its position. -/
theorem rows_answer_twins :
    ∃ draws s row after, plain.Drawn twins draws s ∧
      Cursor.nextRow 1 s = .ok (some row) after ∧ row.Answers true ⟨["ID", "id"], 2⟩ ∧
      row.get (.name "ID") = .ok (.byte 3) ∧ row.get (.name "id") = .ok (.byte 3) ∧
      row.get (.position 1) = .ok (.byte 4) := by
  have hopen : plain.openCursor twins = .ok twinCursor (twins.after plain.openCursor) := by cbv
  have hanswer : plain.answer? twins = some [7, 0, 0, 0, 0, 0, 0, 0, 2, 0, 0, 0, 9, 2, 0, 0, 0, 73,
      68, 9, 2, 0, 0, 0, 105, 100, 1, 0, 0, 0, 1, 3, 1, 4, 0] := by cbv
  have hturn : Cursor.nextRow 1 ⟨twinCursor, twins.after plain.openCursor⟩ =
      .ok (some ⟨["ID", "id"], [.byte 3, .byte 4]⟩)
        ⟨{ twinCursor with page := [0], remaining := 0 }, twins.after plain.openCursor⟩ := by rfl
  obtain ⟨-, -, hnext, -⟩ := (Drawn.opened hanswer hopen).rows_answer
  exact ⟨_, _, _, _, .opened hanswer hopen, hturn, hnext 1 _ _ hturn, by cbv, by cbv, by cbv⟩

end Query

end ThinClient
