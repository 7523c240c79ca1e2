import ThinClient.Decimal.Integer
import ThinClient.Text.Split

/-!
# Versions

A protocol version is three 16-bit numbers, which are compared from left to right and written with
dots between them.
-/

namespace ThinClient

/-- A protocol version. -/
structure Version where
  major : Int16
  minor : Int16
  patch : Int16
  deriving DecidableEq, Repr

namespace Version

/-- The version that is asked for unless told otherwise. -/
def default : Version := ⟨1, 1, 0⟩

/-- The text of a version. -/
def text (v : Version) : String :=
  toString v.major.toInt ++ "." ++ toString v.minor.toInt ++ "." ++ toString v.patch.toInt

/-- Versions from older to newer. -/
def order (a b : Version) : Ordering :=
  ((compare a.major b.major).then (compare a.minor b.minor)).then (compare a.patch b.patch)

/-- Reads the text of a version. -/
def read? (cs : List Char) : Option Version := do
  let (major, rest) ← Split.atFirst '.' cs
  let (minor, patch) ← Split.atFirst '.' rest
  return ⟨← Decimal.readInt16 major, ← Decimal.readInt16 minor, ← Decimal.readInt16 patch⟩

end Version

end ThinClient
