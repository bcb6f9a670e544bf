/-!
# Replacement templates

The target of an alias whose key is a regular expression is a template: `\N` (a
backslash and a run of decimal digits) stands for capture group `N` of the match, and
a doubled backslash for one backslash. A backslash before anything else stays as it is.
A group that does not exist, did not take part in the match, or whose number is too
large to be one (at least `2^64`) stands for nothing. Captured text is inserted as it is
and never expanded again.

The template is first cut at every doubled backslash, left to right; references are
expanded in each piece, and the pieces are joined with single backslashes.

## What this module delivers

- `Template.pieces`, the cut at doubled backslashes.
- `Template.expandRefs`, the expansion of group references inside one piece.
- `Template.expand`, the whole expansion.
-/

namespace ImportPath

namespace Template

/-- Cuts a text at every doubled backslash, left to right, without overlaps. -/
def pieces : List Char → List (List Char)
  | '\\' :: '\\' :: rest => [] :: pieces rest
  | c :: rest =>
    match pieces rest with
    | p :: ps => (c :: p) :: ps
    | [] => [[c]]
  | [] => [[]]

/-- The value of a run of decimal digits. -/
def digitsValue (ds : List Char) : Nat :=
  ds.foldl (fun acc d => acc * 10 + (d.toNat - 48)) 0

/-- The text a group reference stands for: the group's text when it exists and took
part in the match, else nothing. -/
def groupText (groups : List (Option String)) (ds : List Char) : List Char :=
  let n := digitsValue ds
  if n < Nat.pow 2 64 then ((groups[n]?).bind id |>.getD "").toList else []

/-- Dropping a prefix never makes a list longer. -/
theorem dropWhile_length_le (p : Char → Bool) (l : List Char) :
    (l.dropWhile p).length ≤ l.length :=
  (List.dropWhile_suffix p).length_le

/-- Expands the group references `\N` of one piece. -/
def expandRefs (groups : List (Option String)) : List Char → List Char
  | [] => []
  | '\\' :: rest =>
    let ds := rest.takeWhile Char.isDigit
    if ds.isEmpty then '\\' :: expandRefs groups rest
    else groupText groups ds ++ expandRefs groups (rest.dropWhile Char.isDigit)
  | c :: rest => c :: expandRefs groups rest
termination_by cs => cs.length
decreasing_by
  all_goals simp_wf
  all_goals first
    | omega
    | exact Nat.lt_succ_of_le (dropWhile_length_le _ _)
    | exact dropWhile_length_le _ _

/-- Expands a template with the capture groups of a match. -/
def expand (template : String) (groups : List (Option String)) : String :=
  String.ofList ((pieces template.toList).map (expandRefs groups) |>.intersperse ['\\']).flatten

end Template

end ImportPath
