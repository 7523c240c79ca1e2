/-!
# Shortest decimals

The decimal shown for a binary float is the shortest one that still rounds to it, and of the
shortest ones the nearest; of two equally near ones it is the larger.

A float is given as `mantissa * 2 ^ exponent`, and the reals that round to it reach half way to its
neighbours. For one digit, two digits and so on the two decimals next to the value on that grid
are tried, in exact arithmetic; the first grid with a decimal in the interval wins.

* `Decimal.shortest` gives the digits and the place of the point.
* `Decimal.Layout` says how they are written.
-/

namespace ThinClient.Decimal

/-- A positive binary float of finite value `mantissa * 2 ^ exponent`. -/
structure BinaryValue where
  mantissa : Nat
  exponent : Int
  /-- Whether the next float below is only half as far away as the next one above. -/
  narrowBelow : Bool

/-- The decimal `0.d₁d₂…dₙ * 10 ^ point`, whose digits `d₁d₂…dₙ` are those of `digits`. -/
structure Digits where
  digits : List Char
  point : Int

namespace BinaryValue

/-- Scales every decimal that occurs to an integer. -/
def decimalShift : Nat := 400

/-- The value, the lower end and the upper end of its interval, over one denominator. -/
def interval (v : BinaryValue) : Nat × Nat × Nat × Nat :=
  let low := 4 * v.mantissa - if v.narrowBelow then 1 else 2
  let high := 4 * v.mantissa + 2
  let up := (v.exponent - 2).toNat
  let down := (2 - v.exponent).toNat
  ((4 * v.mantissa) <<< up, low <<< up, high <<< up, 1 <<< down)

/-- The number of digits before the point, negative where zeros follow the point. -/
def magnitude (v : BinaryValue) : Int :=
  let (value, _, _, unit) := v.interval
  ((Nat.toDigits 10 (value * Nat.pow 10 decimalShift / unit)).length : Int) - decimalShift

/-- The better of the two `count`-digit decimals next to the value that lie in its interval, as a
multiple of the grid. -/
def candidate? (v : BinaryValue) (count : Nat) : Option Nat :=
  let (value, low, high, unit) := v.interval
  let scale := Nat.pow 10 decimalShift
  let grid := unit * Nat.pow 10 (decimalShift + v.magnitude - count).toNat
  let below := value * scale / grid
  let inclusive := v.mantissa % 2 == 0
  let belowIn :=
    decide (low * scale < below * grid) || inclusive && low * scale == below * grid
  let aboveIn :=
    decide ((below + 1) * grid < high * scale) ||
      inclusive && (below + 1) * grid == high * scale
  if belowIn && (!aboveIn || decide (2 * (value * scale - below * grid) < grid)) then some below
  else if aboveIn then some (below + 1)
  else none

/-- The first grid with a decimal in the interval, from `count` digits on. -/
def search (v : BinaryValue) : Nat → Nat → Nat × Nat
  | 0, count => (((v.candidate? count).getD 0), count)
  | tries + 1, count =>
    match v.candidate? count with
    | some c => (c, count)
    | none => search v tries (count + 1)

end BinaryValue

/-- The digits without the zeros at their end. -/
def trimZeros (ds : List Char) : List Char :=
  (ds.reverse.dropWhile (· = '0')).reverse

/-- The shortest decimal that rounds to a float. -/
def shortest (v : BinaryValue) : Digits :=
  let (c, count) := v.search 16 1
  let ds := Nat.toDigits 10 c
  ⟨trimZeros ds, v.magnitude + (ds.length - count)⟩

/-- How a decimal is written. -/
structure Layout where
  /-- Smaller decimals, `0.d… * 10 ^ point` with `point` below this, are written with exponent. -/
  leastPoint : Int
  /-- Larger decimals, with `point` above this, are written with exponent. -/
  greatestPoint : Int

namespace Layout

/-- The positional form: at least one digit on each side of the point. -/
def positional (d : Digits) : List Char :=
  let n : Int := d.digits.length
  if d.point ≤ 0 then
    '0' :: '.' :: List.replicate (-d.point).toNat '0' ++ d.digits
  else if n ≤ d.point then
    d.digits ++ List.replicate (d.point - n).toNat '0' ++ ['.', '0']
  else
    d.digits.take d.point.toNat ++ '.' :: d.digits.drop d.point.toNat

/-- The form with exponent: one digit, the other digits behind a point, `e` and the exponent. -/
def scientific (d : Digits) : List Char :=
  let fraction := d.digits.drop 1
  d.digits.take 1 ++ (if fraction.isEmpty then [] else '.' :: fraction) ++
    'e' :: (Int.repr (d.point - 1)).toList

/-- The text of a decimal. -/
def write (layout : Layout) (d : Digits) : List Char :=
  if d.point < layout.leastPoint ∨ layout.greatestPoint < d.point then scientific d
  else positional d

end Layout

end ThinClient.Decimal
