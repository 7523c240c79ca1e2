import ThinClient.Value.Error

/-!
# Reading octets

A reader takes octets from the front of a buffer and either gives a value or fails; in both cases
it says what is left. A failed fixed-width or length-checked read takes nothing, and what was taken
before it stays taken.

* `Reader.take`, `Reader.word`, `Reader.length` are the elementary reads.
* `Reader.within` reads from a part of the buffer that is split off first.
-/

namespace ThinClient

/-- A computation that reads octets from the front of a buffer. -/
abbrev Reader := EStateM DecodeError Bytes

namespace Reader

/-- How many octets are left. -/
def available : Reader Nat :=
  return (← get).length

/-- Takes exactly so many octets. -/
def take (n : Nat) : Reader Bytes := fun buffer =>
  if buffer.length < n then .error (.truncated n buffer.length) buffer
  else .ok (buffer.take n) (buffer.drop n)

/-- Takes a word. -/
def word (α : Type) [Word α] : Reader α :=
  return Word.decode α (← take (Word.width α))

/-- Takes a count; a negative one is malformed. -/
def length : Reader Nat := do
  let n ← word Int32
  if n < 0 then throw (.malformed .negativeLength)
  return n.toInt.toNat

/-- Reads so many times. -/
def replicate {α : Type} : Nat → Reader α → Reader (List α)
  | 0, _ => return []
  | n + 1, element => do
    let a ← element
    return a :: (← replicate n element)

/-- Splits octets off and reads from them alone; what is left is what follows them. -/
def within {α : Type} (n : Nat) (inner : Reader α) : Reader α := fun buffer =>
  match take n buffer with
  | .error e rest => .error e rest
  | .ok part rest =>
    match inner part with
    | .ok a _ => .ok a rest
    | .error e _ => .error e rest

end Reader

end ThinClient
