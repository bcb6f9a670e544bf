/-!
# Sets of code points

A set of code points is written as sorted, disjoint ranges with both ends included,
and membership is found by halving the list of ranges. The tables of character
properties are sets of this kind.

## What this module delivers

- `Text.CodeRanges` and `Text.CodeRanges.contains`.
-/

namespace ImportPath

namespace Text

/-- A set of code points as sorted, disjoint ranges, both ends included. -/
abbrev CodeRanges := Array (Nat × Nat)

/-- Whether a code point lies in one of the ranges. The ranges from `lo` up to `hi`
(excluded) are searched by comparing with the middle one. -/
def CodeRanges.containsBetween (rs : CodeRanges) (n lo hi : Nat) : Bool :=
  if lo < hi then
    let mid := (lo + hi) / 2
    match rs[mid]? with
    | some (a, b) =>
      if n < a then rs.containsBetween n lo mid
      else if b < n then rs.containsBetween n (mid + 1) hi
      else true
    | none => false
  else false
termination_by hi - lo

/-- Whether a code point lies in one of the ranges. -/
def CodeRanges.contains (rs : CodeRanges) (n : Nat) : Bool :=
  rs.containsBetween n 0 rs.size

end Text

end ImportPath
