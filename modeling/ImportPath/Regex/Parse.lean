import ImportPath.Regex.Syntax
import ImportPath.Regex.Error
import ImportPath.Text.Alphabetic
import ImportPath.Text.Numeric

/-!
# Reading a regular expression

The pattern is read once from left to right. Groups capture unless they start with `?:`
or set flags; `(?P<name>...)` and `(?<name>...)` name them. Flags: `i` (ASCII case
folding), `m` (line anchors), `s` (`.` matches line breaks), `U` (greedy and lazy swap),
`R` (CRLF line breaks), `x` (blanks and `#` comments ignored), `u` (accepted, no effect).
Escapes stand for ASCII classes (`\d`, `\s`, `\w`), assertions (`\A`, `\z`, `\b`, `\B`,
`\<`, `\>`, `\b{start}`, ...), control characters and hexadecimal code points; every
ASCII character that is neither a letter nor a digit may be escaped to stand for itself.
Unicode classes, backreferences and look-around are refused.

What this module delivers: `Regex.parse`, which gives the syntax tree and the number of
capture groups, or the first refusal met. Groups may nest at most fifty deep.
-/

namespace ImportPath

namespace Regex

/-- The flags in force while reading. -/
structure Flags where
  caseInsensitive : Bool := false
  multiLine : Bool := false
  dotAll : Bool := false
  swapGreed : Bool := false
  crlf : Bool := false
  ignoreWhitespace : Bool := false
  deriving Inhabited

/-- The deepest group nesting allowed. -/
def nestLimit : Nat := 50

/-- The reader's state: the pattern, the position (in characters), the group nesting,
the number of capture groups so far, the flags in force and the group names seen. -/
structure Reading where
  pattern : Array Char
  pos : Nat := 0
  depth : Nat := 0
  captures : Nat := 0
  flags : Flags := {}
  names : List String := []

/-- Reading a pattern, stopping at the first refusal. -/
abbrev PatternReader := StateT Reading (Except ParseError)

/-- Unicode blanks (`White_Space`). -/
def isUnicodeSpace (c : Char) : Bool :=
  let n := c.toNat
  (9 ≤ n && n ≤ 13) || n == 32 || n == 0x85 || n == 0xA0 || n == 0x1680 ||
  (0x2000 ≤ n && n ≤ 0x200A) || n == 0x2028 || n == 0x2029 || n == 0x202F ||
  n == 0x205F || n == 0x3000

/-- Characters allowed in a group name: an alphabetic character or `_` first, then also
numeric characters, `.`, `[` and `]`. -/
def isNameChar (c : Char) (first : Bool) : Bool :=
  if first then c == '_' || Text.isAlphabetic c
  else c == '_' || c == '.' || c == '[' || c == ']' || Text.isAlphabetic c || Text.isNumeric c

/-- Characters with a meaning of their own in patterns. -/
def isMeta (c : Char) : Bool :=
  "\\.+*?()|[]^$#&-~".toList.contains c || c == '\x7b' || c == '\x7d'

/-- Characters that stand for themselves when escaped: the meta characters and every
ASCII character that is neither a letter, a digit, `<` nor `>`. -/
def isEscapeable (c : Char) : Bool :=
  isMeta c || (c.toNat < 128 && !c.isAlphanum && c != '<' && c != '>')

/-- Whether a character is a hexadecimal digit. -/
def isHexDigit (c : Char) : Bool :=
  c.isDigit || ('a' ≤ c && c ≤ 'f') || ('A' ≤ c && c ≤ 'F')

/-- The value of hexadecimal digits. -/
def hexValue (ds : List Char) : Nat :=
  ds.foldl (fun acc d =>
    acc * 16 + (if d.isDigit then d.toNat - 48 else if 'a' ≤ d then d.toNat - 87 else d.toNat - 55)) 0

/-- The character with a code point, when it is one (not a surrogate, not too large). -/
def charOfCode? (n : Nat) : Option Char :=
  if n < 0xD800 || (0xDFFF < n && n ≤ maxCode) then some (Char.ofNat n) else none

namespace PatternReader

/-- Whether the whole pattern has been read. -/
def done : PatternReader Bool := do
  let s ← get
  pure (s.pos ≥ s.pattern.size)

/-- The character at the position. -/
def cur : PatternReader (Option Char) := do
  let s ← get
  pure s.pattern[s.pos]?

/-- Whether the character at the position is `c`. -/
def at? (c : Char) : PatternReader Bool := do
  pure ((← cur) == some c)

/-- Moves past one character; false when there is then nothing left. -/
def bump : PatternReader Bool := do
  let s ← get
  if s.pos ≥ s.pattern.size then pure false
  else do
    set { s with pos := s.pos + 1 }
    pure (s.pos + 1 < s.pattern.size)

/-- Moves past `lit` when the pattern continues with it. -/
def bumpIf (lit : String) : PatternReader Bool := do
  let s ← get
  if lit.toList.isPrefixOf (s.pattern.toList.drop s.pos) then do
    set { s with pos := s.pos + lit.length }
    pure true
  else pure false

/-- The number of blank characters and comments at the position, in `x` mode. -/
def blankRun : Bool → List Char → Nat
  | _, [] => 0
  | inComment, c :: cs =>
    if inComment then blankRun (c != '\n') cs + 1
    else if isUnicodeSpace c then blankRun false cs + 1
    else if c == '#' then blankRun true cs + 1
    else 0

/-- Skips blanks and comments when the `x` flag is on. -/
def skipSpace : PatternReader Unit := do
  let s ← get
  if s.flags.ignoreWhitespace then
    set { s with pos := s.pos + blankRun false (s.pattern.toList.drop s.pos) }

/-- Moves past one character and then past blanks; false when nothing is left. -/
def bumpAndSkip : PatternReader Bool := do
  if !(← bump) then pure false
  else do
    skipSpace
    pure !(← done)

/-- The character after the one at the position. -/
def peekNext : PatternReader (Option Char) := do
  let s ← get
  pure s.pattern[s.pos + 1]?

/-- Where the next significant character starts after the position, in `x` mode: blanks
are skipped, and one `#` as well. -/
def significantAfter : List Char → Bool → Nat → Option Nat
  | [], _, _ => none
  | c :: cs, inComment, i =>
    if isUnicodeSpace c then significantAfter cs inComment (i + 1)
    else if !inComment && c == '#' then significantAfter cs true (i + 1)
    else some i

/-- The next significant character after the one at the position. -/
def peekSpace : PatternReader (Option Char) := do
  let s ← get
  if !s.flags.ignoreWhitespace then peekNext
  else if s.pos ≥ s.pattern.size then pure none
  else
    let rest := s.pattern.toList.drop (s.pos + 1)
    match significantAfter rest false 0 with
    | some i => pure rest[i]?
    | none => pure rest.head?

/-- A character, or the class of its two cases when case folding is on. -/
def charNode (c : Char) : PatternReader Node := do
  let s ← get
  if s.flags.caseInsensitive then
    match CharClass.foldRange (c.toNat, c.toNat) with
    | some r => pure (.cls (CharClass.canonical [(c.toNat, c.toNat), r]))
    | none => pure (.char c)
  else pure (.char c)

/-- `.`: any character, or any but line breaks. -/
def dotNode : PatternReader Node := do
  let f := (← get).flags
  if f.dotAll then pure (.cls ⟨[(0, maxCode)]⟩)
  else if f.crlf then pure (.cls ⟨[(0, 9), (11, 12), (14, maxCode)]⟩)
  else pure (.cls ⟨[(0, 9), (11, maxCode)]⟩)

/-- `^`: the start of the text, or of a line. -/
def startNode : PatternReader Node := do
  let f := (← get).flags
  pure (.look (if f.multiLine then (if f.crlf then .startLineCRLF else .startLine) else .start))

/-- `$`: the end of the text, or of a line. -/
def finishNode : PatternReader Node := do
  let f := (← get).flags
  pure (.look (if f.multiLine then (if f.crlf then .finishLineCRLF else .finishLine) else .finish))

/-- Skips Unicode blanks, whatever the flags. -/
def skipBlanks : Nat → PatternReader Unit
  | 0 => pure ()
  | fuel + 1 => do
    match ← cur with
    | some c =>
      if isUnicodeSpace c then do
        let _ ← bumpAndSkip
        skipBlanks fuel
      else pure ()
    | none => pure ()

/-- Collects decimal digits; blanks between them are skipped in `x` mode only. -/
def digitRun : Nat → List Char → PatternReader (List Char)
  | 0, acc => pure acc
  | fuel + 1, acc => do
    match ← cur with
    | some c =>
      if c.isDigit then do
        let _ ← bumpAndSkip
        digitRun fuel (acc ++ [c])
      else pure acc
    | none => pure acc

/-- Reads a decimal number of a counted repetition (at most `2^32 - 1`); blanks around
it are skipped in every mode. -/
def decimal : PatternReader Nat := do
  let s ← get
  let fuel := s.pattern.size - s.pos + 1
  skipLeadingBlanks fuel
  let ds ← digitRun fuel []
  skipBlanks fuel
  if ds.isEmpty then throw .decimalNoDigits
  let n : Nat := ds.foldl (fun acc d => acc * 10 + (d.toNat - 48)) 0
  if n ≥ Nat.pow 2 32 then throw .decimalInvalid
  pure n
where
  /-- Before the digits each blank is passed one at a time. -/
  skipLeadingBlanks : Nat → PatternReader Unit
    | 0 => pure ()
    | fuel + 1 => do
      match ← cur with
      | some c =>
        if isUnicodeSpace c then do
          let _ ← bump
          skipLeadingBlanks fuel
        else pure ()
      | none => pure ()

/-- Reads fixed-length hexadecimal digits (at the first digit). -/
def hexFixed : Nat → Nat → List Char → PatternReader Node
  | 0, _, acc => do
    let _ ← bumpAndSkip
    match charOfCode? (hexValue acc) with
    | some c => charNode c
    | none => throw .hexFixedInvalid
  | left + 1, i, acc => do
    if i > 0 then
      if !(← bumpAndSkip) then throw .hexFixedUnexpectedEnd
    match ← cur with
    | some c => if isHexDigit c then hexFixed left (i + 1) (acc ++ [c]) else throw .hexFixedInvalidDigit
    | none => throw .hexFixedUnexpectedEnd

/-- Reads hexadecimal digits in braces (at the opening brace). -/
def hexBraced : Nat → List Char → PatternReader Node
  | 0, _ => throw .hexBraceUnexpectedEnd
  | fuel + 1, acc => do
    if (← bumpAndSkip) && !(← at? '\x7d') then
      match ← cur with
      | some c => if isHexDigit c then hexBraced fuel (acc ++ [c]) else throw .hexBraceInvalidDigit
      | none => throw .hexBraceUnexpectedEnd
    else do
      if ← done then throw .hexBraceUnexpectedEnd
      let _ ← bumpAndSkip
      if acc.isEmpty then throw .hexBraceEmpty
      let n := hexValue acc
      match (if n < Nat.pow 2 32 then charOfCode? n else none) with
      | some c => charNode c
      | none => throw .hexBraceInvalid

/-- Reads a hexadecimal escape (at `x`, `u` or `U`). -/
def hexEscape : PatternReader Node := do
  let len := match ← cur with
    | some 'x' => 2
    | some 'u' => 4
    | _ => 8
  if !(← bumpAndSkip) then throw .hexUnexpectedEnd
  if ← at? '\x7b' then do
    let s ← get
    hexBraced (s.pattern.size - s.pos + 1) []
  else hexFixed len 0 []

/-- Reads a Perl class escape (at `d`, `s`, `w` or their upper-case negations). -/
def perlClass : PatternReader Node := do
  let c := (← cur).getD 'd'
  let _ ← bump
  let base := match c.toLower with
    | 'd' => (namedClass "digit").getD ⟨[]⟩
    | 's' => (namedClass "space").getD ⟨[]⟩
    | _ => (namedClass "word").getD ⟨[]⟩
  pure (.cls (if c.isUpper then base.negate else base))

/-- Letters and `-`, the characters of a special word boundary name. -/
def isBoundaryNameChar (c : Char) : Bool := c.isAlpha || c == '-'

/-- Collects the name of a special word boundary. -/
def boundaryName : Nat → List Char → PatternReader (List Char)
  | 0, acc => pure acc
  | fuel + 1, acc => do
    match ← cur with
    | some c =>
      if isBoundaryNameChar c then do
        let _ ← bumpAndSkip
        boundaryName fuel (acc ++ [c])
      else pure acc
    | none => pure acc

/-- After `\b`, at a brace: a special word boundary `\b{start}`, `\b{end}`,
`\b{start-half}` or `\b{end-half}`; none, with the position back at the brace, when the
brace starts a repetition instead. -/
def specialWordBoundary : PatternReader (Option Node) := do
  let start := (← get).pos
  if !(← bumpAndSkip) then throw .specialWordOrRepetitionUnexpectedEnd
  match ← cur with
  | some c =>
    if !isBoundaryNameChar c then do
      modify fun s => { s with pos := start }
      pure none
    else do
      let s ← get
      let name ← boundaryName (s.pattern.size - s.pos + 1) []
      if (← done) || !(← at? '\x7d') then throw .specialWordBoundaryUnclosed
      let _ ← bump
      match String.ofList name with
      | "start" => pure (some (.look .wordStart))
      | "end" => pure (some (.look .wordEnd))
      | "start-half" => pure (some (.look .wordStartHalf))
      | "end-half" => pure (some (.look .wordEndHalf))
      | _ => throw .specialWordBoundaryUnrecognized
  | none => throw .specialWordOrRepetitionUnexpectedEnd

/-- Reads an escape (after the backslash). -/
def escape : PatternReader Node := do
  match ← cur with
  | none => throw .escapeUnexpectedEnd
  | some c =>
    if c.isDigit then throw .backreferenceUnsupported
    else if c == 'p' || c == 'P' then throw .unicodeClassUnsupported
    else if c == 'x' || c == 'u' || c == 'U' then hexEscape
    else if "dswDSW".toList.contains c then perlClass
    else do
      let _ ← bump
      if isMeta c || isEscapeable c then charNode c
      else match c with
        | 'a' => charNode '\x07'
        | 'f' => charNode '\x0c'
        | 't' => charNode '\t'
        | 'n' => charNode '\n'
        | 'r' => charNode '\r'
        | 'v' => charNode '\x0b'
        | 'A' => pure (.look .start)
        | 'z' => pure (.look .finish)
        | 'b' => do
          if !(← done) && (← at? '\x7b') then
            match ← specialWordBoundary with
            | some n => pure n
            | none => pure (.look .word)
          else pure (.look .word)
        | 'B' => pure (.look .notWord)
        | '<' => pure (.look .wordStart)
        | '>' => pure (.look .wordEnd)
        | _ => throw .escapeUnrecognized

/-- Reads one character outside a class: an escape, `.`, `^`, `$` or a literal. -/
def primitive : PatternReader Node := do
  let c := (← cur).getD ' '
  let _ ← bump
  match c with
  | '\\' => escape
  | '.' => dotNode
  | '^' => startNode
  | '$' => finishNode
  | c => charNode c

/-- Applies `?`, `*` or `+` (at the operator) to the last item read. -/
def uncountedRepetition (items : List Node) : PatternReader (List Node) := do
  match items.getLast? with
  | none => throw .uncountedRepetitionMissing
  | some sub =>
    let (lo, hi) : Nat × Option Nat := match ← cur with
      | some '?' => (0, some 1)
      | some '*' => (0, none)
      | _ => (1, none)
    let mut greedy := true
    if (← bump) && (← at? '?') then
      greedy := false
      let _ ← bump
    if (← get).flags.swapGreed then greedy := !greedy
    pure (items.dropLast ++ [Node.repetition lo hi greedy sub])

/-- Applies `{n}`, `{n,}` or `{n,m}` (at the brace) to the last item read. -/
def countedRepetition (items : List Node) : PatternReader (List Node) := do
  match items.getLast? with
  | none => throw .countedRepetitionMissing
  | some sub =>
    if !(← bumpAndSkip) then throw .countedRepetitionUnclosed
    let lo ← decimal
    let mut hi : Option Nat := some lo
    if ← done then throw .countedRepetitionMinUnclosed
    if ← at? ',' then
      if !(← bumpAndSkip) then throw .countedRepetitionCommaUnclosed
      if !(← at? '\x7d') then hi := some (← decimal) else hi := none
      if ← done then throw .countedRepetitionMinMaxUnclosed
    if !(← at? '\x7d') then throw .countedRepetitionInvalid
    let mut greedy := true
    if (← bumpAndSkip) && (← at? '?') then
      greedy := false
      let _ ← bump
    if (← get).flags.swapGreed then greedy := !greedy
    match hi with
    | some h => if lo > h then throw .countedRepetitionInvalidRange
    | none => pure ()
    pure (items.dropLast ++ [Node.repetition lo hi greedy sub])

/-- At `[` inside a class: a named class `[:name:]` or `[:^name:]`; none, with the
position back at the bracket, when it is not one. -/
def namedClassItem : PatternReader (Option CharClass) := do
  let start := (← get).pos
  let reset : PatternReader (Option CharClass) := do
    modify fun s => { s with pos := start }
    pure none
  if !(← bump) || !(← at? ':') then reset
  else if !(← bump) then reset
  else do
    let mut negated := false
    let mut ok := true
    if ← at? '^' then
      negated := true
      ok ← bump
    if !ok then reset
    else do
      let s ← get
      let nameChars := (s.pattern.toList.drop s.pos).takeWhile (· != ':')
      set { s with pos := s.pos + nameChars.length }
      if ← done then reset
      else if !(← bumpIf ":]") then reset
      else match namedClass (String.ofList nameChars) with
        | some c => pure (some (if negated then c.negate else c))
        | none => reset

/-- Reads one item of a class (after any blanks): an escape or a character. -/
def classItem : PatternReader Node := do
  let c := (← cur).getD ' '
  let _ ← bump
  if c == '\\' then escape else pure (.char c)

/-- The ranges an item stands for inside a class. -/
def itemRanges : Node → Except ParseError (List (Nat × Nat))
  | .char c => pure [(c.toNat, c.toNat)]
  | .cls c => pure c.ranges
  | _ => throw .classInvalidItem

/-- The single character an end of a range stands for. -/
def rangeEnd : Node → Except ParseError Nat
  | .char c => pure c.toNat
  | _ => throw .classInvalidRangeItem

/-- Reads an item or a range `a-b` of a class. -/
def classRange (acc : List (Nat × Nat)) : PatternReader (List (Nat × Nat)) := do
  let first ← classItem
  skipSpace
  if ← done then throw .classUnclosedAfterItem
  let ahead ← peekSpace
  if !(← at? '-') || ahead == some ']' || ahead == some '-' then
    pure (acc ++ (← liftM (itemRanges first)))
  else do
    if !(← bumpAndSkip) then throw .classUnclosedAfterDash
    let second ← classItem
    let lo ← liftM (rangeEnd first)
    let hi ← liftM (rangeEnd second)
    if lo > hi then throw .classInvalidRange
    pure (acc ++ [(lo, hi)])
where
  liftM {α : Type} (e : Except ParseError α) : PatternReader α :=
    match e with
    | .ok a => pure a
    | .error err => throw err

/-- Reads the items of a class up to its closing bracket. -/
def classItems (negate : Bool) : Nat → List (Nat × Nat) → PatternReader Node
  | 0, _ => throw .classUnclosed
  | fuel + 1, acc => do
    skipSpace
    if ← done then throw .classUnclosed
    let c := (← cur).getD ' '
    let ahead ← peekNext
    if c == '[' then
      match ← namedClassItem with
      | some cls => classItems negate fuel (acc ++ cls.ranges)
      | none => throw .classNestUnsupported
    else if c == ']' then do
      let _ ← bump
      let cls := CharClass.canonical acc
      let cls := if (← get).flags.caseInsensitive then cls.foldAsciiCase else cls
      pure (.cls (if negate then cls.negate else cls))
    else if c == '&' && ahead == some '&' then throw .classIntersectionUnsupported
    else if c == '-' && ahead == some '-' then throw .classDifferenceUnsupported
    else if c == '~' && ahead == some '~' then throw .classSymmetricDifferenceUnsupported
    else classItems negate fuel (← classRange acc)

/-- Leading `-` of a class stand for themselves. -/
def leadingDashes : Nat → List (Nat × Nat) → PatternReader (List (Nat × Nat))
  | 0, acc => pure acc
  | fuel + 1, acc => do
    if ← at? '-' then
      if !(← bumpAndSkip) then throw .classUnclosedAfterDash
      leadingDashes fuel (acc ++ [(45, 45)])
    else pure acc

/-- Reads a class (at `[`). -/
def charClass : PatternReader Node := do
  if !(← bumpAndSkip) then throw .classUnclosed
  let mut negate := false
  if ← at? '^' then
    if !(← bumpAndSkip) then throw .classUnclosedAfterNegation
    negate := true
  let s ← get
  let mut acc ← leadingDashes (s.pattern.size - s.pos + 1) []
  if acc.isEmpty && (← at? ']') then
    acc := [(93, 93)]
    if !(← bumpAndSkip) then throw .classUnclosedAfterClosing
  let s ← get
  classItems negate (s.pattern.size - s.pos + 1) acc

/-- Reads a group name up to `>` (after `(?<` or `(?P<`) and records it. -/
def groupName : PatternReader String := do
  if ← done then throw .missingGroupName
  let s ← get
  let start := s.pos
  let rest := s.pattern.toList.drop s.pos
  let nameChars := rest.takeWhile (· != '>')
  -- every character up to `>` must be allowed
  match (nameChars.zipIdx.find? fun (c, i) => !isNameChar c (i == 0)) with
  | some (_, i) =>
    set { s with pos := start + i }
    throw .invalidGroupName
  | none =>
    set { s with pos := start + nameChars.length }
    if ← done then throw .unclosedGroupName
    let _ ← bump
    if nameChars.isEmpty then throw .emptyGroupName
    let name := String.ofList nameChars
    let s ← get
    if s.names.contains name then throw .duplicateCaptureName
    set { s with names := name :: s.names }
    pure name

/-- The index of the next capture group. -/
def nextCapture : PatternReader Nat := do
  let s ← get
  if s.captures + 1 ≥ Nat.pow 2 32 then throw .tooManyCaptures
  set { s with captures := s.captures + 1 }
  pure (s.captures + 1)

/-- Sets one flag. -/
def setFlag (f : Flags) (c : Char) (on : Bool) : Except ParseError Flags :=
  match c with
  | 'i' => pure { f with caseInsensitive := on }
  | 'm' => pure { f with multiLine := on }
  | 's' => pure { f with dotAll := on }
  | 'U' => pure { f with swapGreed := on }
  | 'R' => pure { f with crlf := on }
  | 'x' => pure { f with ignoreWhitespace := on }
  | 'u' => pure f
  | _ => throw .flagUnrecognized

/-- Reads flags up to `:` or `)`; a `-` turns the following flags off. -/
def flagsLoop : Nat → Flags → Bool → Bool → List Char → PatternReader Flags
  | 0, _, _, _, _ => throw .flagUnexpectedEnd
  | fuel + 1, f, negate, lastNeg, seen => do
    let c := (← cur).getD ':'
    if c == ':' || c == ')' then
      if lastNeg then throw .flagDanglingNegation
      pure f
    else do
      let (f, negate, lastNeg, seen) ← if c == '-' then do
          if negate then throw .flagRepeatedNegation
          pure (f, true, true, seen)
        else do
          let f ← match setFlag f c !negate with
            | .ok f => pure f
            | .error e => throw e
          if seen.contains c then throw .flagDuplicate
          pure (f, negate, false, c :: seen)
      if !(← bump) then throw .flagUnexpectedEnd
      flagsLoop fuel f negate lastNeg seen

mutual

/-- Reads a sequence of alternatives up to the end of the pattern or of the enclosing
group; the nesting of groups is limited. -/
def alternatives : Nat → PatternReader Node
  | 0 => throw .tooMuchNesting
  | fuel + 1 => do
    let s ← get
    let level := s.depth
    if level > nestLimit then throw .tooMuchNesting
    set { s with depth := level + 1 }
    let (alts, items) ← items fuel level [] []
    modify fun s => { s with depth := s.depth - 1 }
    pure (Node.choice (alts ++ [Node.seq items]))

/-- Reads the items of the current alternative, and the next alternatives after `|`. -/
def items : Nat → Nat → List Node → List Node → PatternReader (List Node × List Node)
  | 0, _, alts, acc => pure (alts, acc)
  | fuel + 1, level, alts, acc => do
    skipSpace
    if ← done then pure (alts, acc)
    else
      let c := (← cur).getD ' '
      if c == '(' then do
        let saved := (← get).flags
        let acc ← match ← group fuel with
          | some sub => do
            modify fun s => { s with flags := saved }
            pure (acc ++ [sub])
          | none => pure acc
        if !(← at? ')') then throw .unclosedGroup
        let _ ← bump
        items fuel level alts acc
      else if c == ')' then
        if level == 0 then throw .unopenedGroup else pure (alts, acc)
      else if c == '|' then do
        let _ ← bump
        items fuel level (alts ++ [Node.seq acc]) []
      else if c == '[' then do
        let n ← charClass
        items fuel level alts (acc ++ [n])
      else if c == '?' || c == '*' || c == '+' then do
        items fuel level alts (← uncountedRepetition acc)
      else if c == '\x7b' then do
        items fuel level alts (← countedRepetition acc)
      else do
        let n ← primitive
        items fuel level alts (acc ++ [n])

/-- Reads a group (at `(`): a capture group, a named one, a non-capturing group with
flags, or flags alone (none is returned; they stay in force). -/
def group : Nat → PatternReader (Option Node)
  | 0 => throw .tooMuchNesting
  | fuel + 1 => do
    let _ ← bumpAndSkip
    if (← bumpIf "?=") || (← bumpIf "?!") || (← bumpIf "?<=") || (← bumpIf "?<!") then
      throw .lookAroundUnsupported
    if (← bumpIf "?P<") || (← bumpIf "?<") then do
      let index ← nextCapture
      let name ← groupName
      pure (some (.group index (some name) (← alternatives fuel)))
    else if ← bumpIf "?" then do
      if ← done then throw .unclosedGroupQuestion
      let start := (← get).pos
      let s ← get
      let flags ← flagsLoop (s.pattern.size - s.pos + 1) s.flags false false []
      modify fun s => { s with flags := flags }
      let consumed := (← get).pos - start
      if ← at? ')' then
        if consumed == 0 then throw .emptyFlags
        pure none
      else do
        let _ ← bump
        pure (some (← alternatives fuel))
    else do
      let index ← nextCapture
      pure (some (.group index none (← alternatives fuel)))

end

end PatternReader

/-- Reads a pattern: its syntax tree and the number of capture groups, or the first
refusal. A tree nested deeper than fifty levels is refused after reading. -/
def parse (pattern : String) : Except ParseError (Node × Nat) := do
  let chars := pattern.toList.toArray
  let (node, st) ← (PatternReader.alternatives (4 * chars.size + 8)).run { pattern := chars }
  if node.depth > nestLimit then throw .tooMuchNesting
  pure (node, st.captures)

/-- The pattern that matches `s` literally: a backslash before each meta character. -/
def escapeText (s : String) : String :=
  String.ofList (s.toList.flatMap fun c => if isMeta c then ['\\', c] else [c])

end Regex

end ImportPath
