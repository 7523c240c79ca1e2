import ThinClient.Value.Describe
import ThinClient.Value.WireType

/-!
# Rows

A row of a query result has values in the order of the columns and, if the query asked for them,
the names of the columns. A column is found by its position or by its name, where upper and lower
case of ASCII letters are the same.

* `Row.get`, `Row.tryGet` find a column and read it as a type.
* `Row.decode` reads the first columns as a tuple of column types, from left to right.
* `Row.tryRead` and `Row.decodeWith` do this for types of any kind, with the way in which a value is
  read as one of them.
-/

namespace ThinClient

universe u

/-- A row of a query result. -/
structure Row where
  names : List String
  values : List WireValue

/-- How a column is named. -/
inductive ColumnRef where
  | position (index : Nat)
  | name (name : String)

/-- Whether two texts are the same but for the case of ASCII letters. -/
def equalIgnoringCase (s t : String) : Bool :=
  s.toList.map Char.toLower == t.toList.map Char.toLower

/-- Tuples with an element of each of the types that the names of a list stand for. -/
def Tuple {κ : Type u} (F : κ → Type) : List κ → Type
  | [] => Unit
  | k :: rest => F k × Tuple F rest

/-- Reads values as a tuple, from left to right; `start` is the position of the first of them. -/
def Tuple.read {κ : Type u} {F : κ → Type}
    (readAs : (k : κ) → WireValue → Except DecodeError (F k)) :
    (types : List κ) → (start : Nat) → List WireValue → Except DecodeError (Tuple F types)
  | [], _, _ => .ok ()
  | _ :: _, start, [] => .error (.indexOutOfBounds start)
  | k :: rest, start, v :: values => do
    let a ← readAs k v
    return (a, ← read readAs rest (start + 1) values)

/-- Tuples of elements of column types. -/
def Cells (types : List ColumnType) : Type :=
  Tuple ColumnType.Carrier types

/-- The values that stand for the elements of a tuple. -/
def Cells.write : (types : List ColumnType) → Cells types → List WireValue
  | [], _ => []
  | c :: rest, (a, cells) => c.write a :: write rest cells

namespace Row

/-- The position of a column. -/
def position (row : Row) : ColumnRef → Except DecodeError Nat
  | .position i => if i < row.values.length then .ok i else .error (.indexOutOfBounds i)
  | .name name =>
    match row.names.findIdx? (equalIgnoringCase name) with
    | some i => .ok i
    | none => .error (.columnNotFound name)

/-- The value of a column. -/
def get (row : Row) (column : ColumnRef) : Except DecodeError WireValue := do
  let i ← row.position column
  match row.values[i]? with
  | some v => .ok v
  | none => .error (.indexOutOfBounds i)

/-- The value of a column, read in some way. -/
def tryRead {α : Type} (row : Row) (column : ColumnRef)
    (read : WireValue → Except DecodeError α) : Except DecodeError α := do
  read (← row.get column)

/-- The value of a column, read as a column type. -/
def tryGet (row : Row) (column : ColumnRef) (type : ColumnType) :
    Except DecodeError type.Carrier :=
  row.tryRead column type.read

/-- The first columns, read as a tuple of types, each of them in its own way. -/
def decodeWith {κ : Type u} {F : κ → Type} (row : Row)
    (readAs : (k : κ) → WireValue → Except DecodeError (F k)) (types : List κ) :
    Except DecodeError (Tuple F types) :=
  Tuple.read readAs types 0 row.values

/-- The first columns, read as a tuple of column types. -/
def decode (row : Row) (types : List ColumnType) : Except DecodeError (Cells types) :=
  row.decodeWith ColumnType.read types

/-- A row in messages: names with values if there are as many names as values, else values. -/
def describe (row : Row) : String :=
  if row.names.length = row.values.length then
    "\x7b" ++ ", ".intercalate
      (List.zipWith (fun n v => Quoted.text n ++ ": " ++ v.describe) row.names row.values) ++ "\x7d"
  else describeArray WireValue.describe row.values

end Row

end ThinClient
