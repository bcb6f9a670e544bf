/-!
# Wildcard patterns

A wildcard pattern is read into tokens: `?` is any one character, `*` any sequence, `**`
any sequence of whole path components, `[abc]` and `[a-z]` one character of a set and
`[!abc]` one character outside it; every other character stands for itself. A `/` is
matched like any other character, even by `*` and `?`, and a leading dot needs nothing
special.

A pattern is refused with the position of the first fault met from left to right:
three or more stars in a row, `**` that does not fill a whole component (it must follow
the start or a `/` and be followed by the end or a `/`), or a `[` without a set closed
by `]` after it.

Matching runs left to right. A sequence first tries to match nothing, then to swallow
one more character at a time; `**` resumes only right after a `/`. The outcome has
three values: a match, a miss of the remaining tokens from here (a sequence before them
may swallow more and try again), and a miss of the whole pattern (nothing later can
match, so earlier sequences stop trying).

## What this module delivers

- `Glob.Pattern` with `Glob.Pattern.parse`, refusing with a `Glob.PatternError`.
- `Glob.Pattern.matches` on a text.
- `Glob.escape`, which makes every character of a text stand for itself.
-/

namespace ImportPath

namespace Glob

/-- One member of a set of characters: a single character or a range. -/
inductive CharSpec where
  | single (c : Char)
  | range (lo hi : Char)
  deriving DecidableEq, Repr, Inhabited

/-- One token of a pattern. -/
inductive Token where
  | char (c : Char)
  | anyChar
  | anySequence
  | anyRecursiveSequence
  | anyWithin (specs : List CharSpec)
  | anyExcept (specs : List CharSpec)
  deriving DecidableEq, Repr, Inhabited

/-- What is wrong with a pattern. -/
inductive PatternFault where
  | tooManyStars
  | recursiveNotAlone
  | invalidRange
  deriving DecidableEq, Repr, Inhabited

/-- The text of a fault. -/
def PatternFault.text : PatternFault → String
  | .tooManyStars => "wildcards are either regular `*` or recursive `**`"
  | .recursiveNotAlone => "recursive wildcards must form a single path component"
  | .invalidRange => "invalid range pattern"

/-- A refused pattern: where the fault was found (a count of characters) and what it is. -/
structure PatternError where
  position : Nat
  fault : PatternFault
  deriving DecidableEq, Repr, Inhabited

/-- The message of a refused pattern. -/
def PatternError.message (e : PatternError) : String :=
  "Pattern syntax error near position " ++ toString e.position ++ ": " ++ e.fault.text

/-- A wildcard pattern: its text, its tokens, and whether it holds `**`. -/
structure Pattern where
  source : String
  tokens : List Token
  recursive : Bool
  deriving Inhabited

/-- The members of a set: `a-b` is a range wherever a `-` stands between two
characters. -/
def charSpecs : List Char → List CharSpec
  | a :: '-' :: b :: rest => .range a b :: charSpecs rest
  | a :: rest => .single a :: charSpecs rest
  | [] => []

/-- The tokens after reading `**` that fills a component: consecutive ones collapse. -/
def pushRecursive (toks : Array Token) : Array Token :=
  if toks.size > 1 && toks.back? == some .anyRecursiveSequence then toks
  else toks.push .anyRecursiveSequence

/-- The offset of the first `]` in `cs` from `start` on. -/
def closeAfter (cs : Array Char) (start : Nat) : Option Nat :=
  (cs.toList.drop start).findIdx? (· == ']')

/-- Reads the tokens from position `i` on. -/
def readTokens (cs : Array Char) : Nat → Nat → Array Token → Bool →
    Except PatternError (Array Token × Bool)
  | 0, _, toks, rec => .ok (toks, rec)
  | fuel + 1, i, toks, rec =>
    match cs[i]? with
    | none => .ok (toks, rec)
    | some '?' => readTokens cs fuel (i + 1) (toks.push .anyChar) rec
    | some '*' =>
      let count := ((cs.toList.drop i).takeWhile (· == '*')).length
      let j := i + count
      if count > 2 then .error ⟨i + 2, .tooManyStars⟩
      else if count = 2 then
        if i = 0 || cs[i - 1]? == some '/' then
          if cs[j]? == some '/' then readTokens cs fuel (j + 1) (pushRecursive toks) true
          else if j = cs.size then readTokens cs fuel j (pushRecursive toks) true
          else .error ⟨j, .recursiveNotAlone⟩
        else .error ⟨i - 1, .recursiveNotAlone⟩
      else readTokens cs fuel j (toks.push .anySequence) rec
    | some '[' =>
      if i + 4 ≤ cs.size && cs[i + 1]? == some '!' then
        match closeAfter cs (i + 3) with
        | some k =>
          let specs := charSpecs ((cs.toList.drop (i + 2)).take (k + 1))
          readTokens cs fuel (i + k + 4) (toks.push (.anyExcept specs)) rec
        | none => .error ⟨i, .invalidRange⟩
      else if i + 3 ≤ cs.size && cs[i + 1]? != some '!' then
        match closeAfter cs (i + 2) with
        | some k =>
          let specs := charSpecs ((cs.toList.drop (i + 1)).take (k + 1))
          readTokens cs fuel (i + k + 3) (toks.push (.anyWithin specs)) rec
        | none => .error ⟨i, .invalidRange⟩
      else .error ⟨i, .invalidRange⟩
    | some c => readTokens cs fuel (i + 1) (toks.push (.char c)) rec

/-- Reads a pattern, or gives its first fault. -/
def Pattern.parse (source : String) : Except PatternError Pattern := do
  let cs := source.toList.toArray
  let (toks, rec) ← readTokens cs (cs.size + 1) 0 #[] false
  pure ⟨source, toks.toList, rec⟩

/-- Whether a character is in a set. -/
def inSpecs (specs : List CharSpec) (c : Char) : Bool :=
  specs.any fun
    | .single s => s == c
    | .range lo hi => lo ≤ c && c ≤ hi

/-- Whether a single-character token accepts a character. -/
def Token.accepts : Token → Char → Bool
  | .char d, c => c == d
  | .anyChar, _ => true
  | .anyWithin specs, c => inSpecs specs c
  | .anyExcept specs, c => !inSpecs specs c
  | _, _ => false

/-- The outcome of matching the tokens from some point on. -/
inductive Outcome where
  | matched
  | restMismatch
  | patternMismatch
  deriving DecidableEq, Repr, Inhabited

mutual

/-- Matches tokens against a text; `afterSep` tells whether the text read so far ends
with `/`. -/
def matchFrom (afterSep : Bool) (text : List Char) : List Token → Outcome
  | [] => if text.isEmpty then .matched else .restMismatch
  | t :: ts =>
    match t with
    | .anySequence | .anyRecursiveSequence =>
      match matchFrom afterSep text ts with
      | .restMismatch => swallow (t == .anyRecursiveSequence) ts afterSep text
      | m => m
    | _ =>
      match text with
      | [] => .patternMismatch
      | c :: rest => if t.accepts c then matchFrom (c == '/') rest ts else .restMismatch
termination_by ts => (ts.length, text.length)

/-- A sequence swallows one more character and the tokens after it are tried again; a
recursive sequence tries again only after a `/`. Once the text is used up, the tokens
after it are matched against nothing. -/
def swallow (recursive : Bool) (ts : List Token) (afterSep : Bool) : List Char → Outcome
  | [] => matchFrom afterSep [] ts
  | c :: rest =>
    let sep := c == '/'
    if recursive && !sep then swallow recursive ts sep rest
    else
      match matchFrom sep rest ts with
      | .restMismatch => swallow recursive ts sep rest
      | m => m
termination_by text => (ts.length, text.length + 1)

end

/-- Whether a pattern matches a whole text. -/
def Pattern.matches (p : Pattern) (s : String) : Bool :=
  matchFrom true s.toList p.tokens == .matched

/-- Whether a pattern holds only characters that stand for themselves, and which text. -/
def Pattern.literal? (p : Pattern) : Option String :=
  (p.tokens.mapM fun (t : Token) =>
    match t with
    | .char c => some c
    | _ => none).map String.ofList

/-- Makes every character of a text stand for itself: `?`, `*`, `[` and `]` are put
inside brackets. -/
def escape (s : String) : String :=
  String.ofList (s.toList.flatMap fun c =>
    if c == '?' || c == '*' || c == '[' || c == ']' then ['[', c, ']'] else [c])

end Glob

end ImportPath
