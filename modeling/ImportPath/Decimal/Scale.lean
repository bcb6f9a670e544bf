/-!
# Reading a decimal into a double

A decimal `significand * 10 ^ exponent` becomes a double in a fixed way: the significand
(below `2^64`) is rounded to a double, then multiplied or divided by the double nearest to
`10 ^ |exponent|`. An exponent beyond the table (past 308) first divides by `1e308`
until it fits; a result that overflows to infinity is refused.

What this module delivers: `Decimal.scaleToDouble`, which gives `none` when the decimal
is out of range.
-/

namespace ImportPath

namespace Decimal

/-- The double nearest to `10 ^ n`. -/
def powerOfTen (n : Nat) : Float := Float.ofScientific 1 false n

/-- `f * 10 ^ exp` with one rounding per table factor; `none` when it overflows. -/
def scaleLoop : Nat → Float → Int → Option Float
  | 0, f, _ => some f
  | fuel + 1, f, exp =>
    if exp.natAbs ≤ 308 then
      if exp ≥ 0 then
        let g := f * powerOfTen exp.natAbs
        if g.isInf then none else some g
      else some (f / powerOfTen exp.natAbs)
    else if f == 0 then some f
    else if exp ≥ 0 then none
    else scaleLoop fuel (f / powerOfTen 308) (exp + 308)

/-- The double for `± significand * 10 ^ exponent`, or `none` when it is out of range. -/
def scaleToDouble (positive : Bool) (significand : Nat) (exponent : Int) : Option Float :=
  let f := significand.toUInt64.toFloat
  (scaleLoop (exponent.natAbs / 308 + 2) f exponent).map fun g => if positive then g else -g

end Decimal

end ImportPath
