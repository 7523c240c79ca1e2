/-!
# Correlation ids

Every request carries an id, which its answer repeats. The ids of a connection are an infinite
sequence, of which each request takes the next one.
-/

namespace ThinClient

/-- A sequence of ids and how many of them have been taken. -/
structure IdSource where
  ids : Nat → Int64
  taken : Nat := 0

namespace IdSource

/-- The ids that count up from a first one and wrap around. -/
def countingFrom (first : Int64) : IdSource where
  ids n := first + Int64.ofNat n

/-- The ids of a connection that is not told otherwise. -/
def default : IdSource :=
  countingFrom 1

/-- The ids of a list, the last of which is repeated for ever. -/
def listed (ids : List Int64) : IdSource where
  ids n := ids.getD n (ids.getLastD 0)

/-- The next id, and the ids after it. -/
def next (source : IdSource) : Int64 × IdSource :=
  (source.ids source.taken, { source with taken := source.taken + 1 })

/-- The next ids, and the ids after them. -/
def nextMany (source : IdSource) : Nat → List Int64 × IdSource
  | 0 => ([], source)
  | n + 1 =>
    let (id, source) := source.next
    let (ids, source) := source.nextMany n
    (id :: ids, source)

end IdSource

end ThinClient
