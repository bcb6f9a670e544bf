/-!
# Regular expressions: syntax trees and character classes

The parsed form of a pattern. Characters are Unicode scalar values; classes are sets of
them, kept as sorted, disjoint, non-adjacent ranges of code points. Word characters and
case folding are ASCII only.

What this module delivers:

* `Regex.Look`, the zero-width assertions, with `Look.holds` at a position of a text.
* `Regex.CharClass` with `canonical`, `negate`, `foldAsciiCase` and `contains`, and the
  named ASCII classes `Regex.namedClass`.
* `Regex.Node`, the syntax tree, with the smart constructors that simplify as the
  compiler expects (`seq`, `choice`, `repetition`), and the properties
  `matchesEmpty` and `startAnchored`.
-/

namespace ImportPath

namespace Regex

/-- Zero-width assertions. -/
inductive Look where
  | start
  | finish
  | startLine
  | finishLine
  | startLineCRLF
  | finishLineCRLF
  | word
  | notWord
  | wordStart
  | wordEnd
  | wordStartHalf
  | wordEndHalf
  deriving DecidableEq, Repr, Inhabited

/-- ASCII word characters: digits, letters and underscore. -/
def isWordChar (c : Char) : Bool :=
  c.isDigit || c.isUpper || c.isLower || c == '_'

/-- Whether an assertion holds at position `pos` (a count of characters) of `hay`. -/
def Look.holds (l : Look) (hay : Array Char) (pos : Nat) : Bool :=
  let before := if pos = 0 then none else hay[pos - 1]?
  let after := hay[pos]?
  let wordBefore := (before.map isWordChar).getD false
  let wordAfter := (after.map isWordChar).getD false
  match l with
  | .start => pos == 0
  | .finish => pos ≥ hay.size
  | .startLine => pos == 0 || before == some '\n'
  | .finishLine => pos ≥ hay.size || after == some '\n'
  | .startLineCRLF =>
    pos == 0 || before == some '\n' || (before == some '\r' && after != some '\n')
  | .finishLineCRLF =>
    pos ≥ hay.size || after == some '\r' || (after == some '\n' && before != some '\r')
  | .word => wordBefore != wordAfter
  | .notWord => wordBefore == wordAfter
  | .wordStart => !wordBefore && wordAfter
  | .wordEnd => wordBefore && !wordAfter
  | .wordStartHalf => !wordBefore
  | .wordEndHalf => !wordAfter

/-- The largest code point. -/
def maxCode : Nat := 0x10FFFF

/-- A set of characters as ranges of code points `(lo, hi)`, both ends included. -/
structure CharClass where
  ranges : List (Nat × Nat)
  deriving DecidableEq, Repr, Inhabited

namespace CharClass

/-- Merges sorted ranges that overlap or touch. -/
def mergeSorted : List (Nat × Nat) → List (Nat × Nat)
  | [] => []
  | [r] => [r]
  | r :: s :: rest =>
    if s.1 ≤ r.2 + 1 then mergeSorted ((r.1, max r.2 s.2) :: rest)
    else r :: mergeSorted (s :: rest)
termination_by rs => rs.length

/-- The class with its ranges sorted and merged. -/
def canonical (rs : List (Nat × Nat)) : CharClass :=
  ⟨mergeSorted (rs.mergeSort fun a b => a.1 < b.1 || (a.1 == b.1 && a.2 ≤ b.2))⟩

/-- Whether the class holds a character. -/
def contains (c : CharClass) (ch : Char) : Bool :=
  c.ranges.any fun r => r.1 ≤ ch.toNat && ch.toNat ≤ r.2

/-- The gaps between sorted disjoint ranges, starting at `from`. -/
def gaps : Nat → List (Nat × Nat) → List (Nat × Nat)
  | lo, [] => if lo ≤ maxCode then [(lo, maxCode)] else []
  | lo, r :: rest => (if lo < r.1 then [(lo, r.1 - 1)] else []) ++ gaps (r.2 + 1) rest

/-- The characters not in the class. -/
def negate (c : CharClass) : CharClass := ⟨gaps 0 c.ranges⟩

/-- The other-case counterpart of the letters of one range: the upper-case letters for a
range meeting `a`-`z`, else the lower-case letters for a range meeting `A`-`Z`. Only one
of the two is produced. -/
def foldRange (r : Nat × Nat) : Option (Nat × Nat) :=
  if r.1 ≤ 122 && 97 ≤ r.2 then some (max r.1 97 - 32, min r.2 122 - 32)
  else if r.1 ≤ 90 && 65 ≤ r.2 then some (max r.1 65 + 32, min r.2 90 + 32)
  else none

/-- Adds the ASCII other-case counterparts of each range. -/
def foldAsciiCase (c : CharClass) : CharClass :=
  canonical (c.ranges ++ c.ranges.filterMap foldRange)

end CharClass

/-- The named ASCII classes (`alnum`, `digit`, `word`, ...). -/
def namedClass : String → Option CharClass
  | "alnum" => some ⟨[(48, 57), (65, 90), (97, 122)]⟩
  | "alpha" => some ⟨[(65, 90), (97, 122)]⟩
  | "ascii" => some ⟨[(0, 127)]⟩
  | "blank" => some ⟨[(9, 9), (32, 32)]⟩
  | "cntrl" => some ⟨[(0, 31), (127, 127)]⟩
  | "digit" => some ⟨[(48, 57)]⟩
  | "graph" => some ⟨[(33, 126)]⟩
  | "lower" => some ⟨[(97, 122)]⟩
  | "print" => some ⟨[(32, 126)]⟩
  | "punct" => some ⟨[(33, 47), (58, 64), (91, 96), (123, 126)]⟩
  | "space" => some ⟨[(9, 13), (32, 32)]⟩
  | "upper" => some ⟨[(65, 90)]⟩
  | "word" => some ⟨[(48, 57), (65, 90), (95, 95), (97, 122)]⟩
  | "xdigit" => some ⟨[(48, 57), (65, 70), (97, 102)]⟩
  | _ => none

/-- A parsed pattern. -/
inductive Node where
  | empty
  | char (c : Char)
  | cls (c : CharClass)
  | look (l : Look)
  | rep (min : Nat) (max : Option Nat) (greedy : Bool) (sub : Node)
  | group (index : Nat) (name : Option String) (sub : Node)
  | concat (subs : List Node)
  | alternation (subs : List Node)
  deriving Inhabited

namespace Node

/-- A sequence; no part is the empty pattern, one part is itself. -/
def seq : List Node → Node
  | [] => .empty
  | [n] => n
  | ns => .concat ns

/-- A choice; no branch is the empty class, which never matches, and one branch is
itself. -/
def choice : List Node → Node
  | [] => .cls ⟨[]⟩
  | [n] => n
  | ns => .alternation ns

/-- A repetition; `{0}` is the empty pattern and `{1}` is the pattern itself. -/
def repetition (min : Nat) (max : Option Nat) (greedy : Bool) (sub : Node) : Node :=
  if min = 0 ∧ max = some 0 then .empty
  else if min = 1 ∧ max = some 1 then sub
  else .rep min max greedy sub

mutual

/-- Whether the pattern can match the empty text. -/
def matchesEmpty : Node → Bool
  | .empty => true
  | .char _ => false
  | .cls _ => false
  | .look _ => true
  | .rep min _ _ sub => min == 0 || matchesEmpty sub
  | .group _ _ sub => matchesEmpty sub
  | .concat subs => allMatchEmpty subs
  | .alternation subs => anyMatchesEmpty subs

/-- Whether every pattern of a list can match the empty text. -/
def allMatchEmpty : List Node → Bool
  | [] => true
  | n :: ns => matchesEmpty n && allMatchEmpty ns

/-- Whether some pattern of a list can match the empty text. -/
def anyMatchesEmpty : List Node → Bool
  | [] => false
  | n :: ns => matchesEmpty n || anyMatchesEmpty ns

end

mutual

/-- Whether every match must start at the beginning of the text. -/
def startAnchored : Node → Bool
  | .look .start => true
  | .rep min _ _ sub => min > 0 && startAnchored sub
  | .group _ _ sub => startAnchored sub
  | .concat (n :: _) => startAnchored n
  | .alternation (n :: ns) => startAnchored n && allStartAnchored ns
  | _ => false

/-- Whether every pattern of a list is anchored at the start. -/
def allStartAnchored : List Node → Bool
  | [] => true
  | n :: ns => startAnchored n && allStartAnchored ns

end

mutual

/-- The deepest nesting below a node: the node itself counts 0, each repetition, group,
sequence or choice adds one for what it holds. -/
def depth : Node → Nat
  | .rep _ _ _ sub => depth sub + 1
  | .group _ _ sub => depth sub + 1
  | .concat subs => depthOfList subs + 1
  | .alternation subs => depthOfList subs + 1
  | _ => 0

/-- The deepest nesting among a list of nodes. -/
def depthOfList : List Node → Nat
  | [] => 0
  | n :: ns => max (depth n) (depthOfList ns)

end

end Node

end Regex

end ImportPath
