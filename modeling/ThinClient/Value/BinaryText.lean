import ThinClient.Decimal.Shortest
import ThinClient.Value.Binary

/-!
# Floats as text

A float is shown by its shortest decimal, written positionally from one ten-thousandth up to just
below ten to the sixteenth, and with an exponent outside that range. Zero keeps its sign; the
other patterns are `inf`, `-inf` and, whatever its sign and payload, `NaN`.
-/

namespace ThinClient

/-- Floats are positional between `0.0001` and `9999999999999999.0`. -/
def floatLayout : Decimal.Layout := ⟨-3, 16⟩

/-- The text of a float of which the parts of the pattern are given: whether it is negative, the
exponent field with its greatest value, the fraction field with its width, and the exponent of the
least significant bit of the smallest normal numbers. -/
def floatText (negative : Bool) (field greatest fraction width : Nat) (least : Int) : String :=
  let sign := if negative then ['-'] else []
  if field = greatest then
    if fraction = 0 then String.ofList (sign ++ ['i', 'n', 'f']) else "NaN"
  else if field = 0 ∧ fraction = 0 then String.ofList (sign ++ ['0', '.', '0'])
  else
    let value : Decimal.BinaryValue :=
      if field = 0 then ⟨fraction, least, false⟩
      else ⟨(1 <<< width) + fraction, least + (field - 1), decide (fraction = 0 ∧ 1 < field)⟩
    String.ofList (sign ++ floatLayout.write (Decimal.shortest value))

namespace Binary32

/-- The text of a 32-bit float. -/
def text (x : Binary32) : String :=
  let n := x.bits.toNat
  floatText (n >>> 31 == 1) ((n >>> 23) % 256) 255 (n % (1 <<< 23)) 23 (-149)

end Binary32

namespace Binary64

/-- The text of a 64-bit float. -/
def text (x : Binary64) : String :=
  let n := x.bits.toNat
  floatText (n >>> 63 == 1) ((n >>> 52) % 2048) 2047 (n % (1 <<< 52)) 52 (-1074)

end Binary64

end ThinClient
