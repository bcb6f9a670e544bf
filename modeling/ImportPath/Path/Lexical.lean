import ImportPath.Path.Basic

/-!
# Lexical path math

Paths are normalized, resolved and related without looking at any file: `.` parts
vanish, `..` removes the name before it, and `..` at the root stays at the root. The
result does not depend on symlinks or on whether the files exist.

What this module delivers:

* `Lexical`, the normal form of a path: whether it is absolute, and its names, of which
  only a leading run of a relative path may be `..`.
* `Path.normalize`, the normal form written back as a path, and `Path.resolve`, a path
  taken against a base directory and normalized.
* `Path.relative`, the way from one normalized directory to another, and
  `Path.relativeFrom`, the way from the directory of one file to another file.
-/

namespace ImportPath

/-- A normalized path: whether it starts at the root, and its names, last name first.
In a relative path the names may start with a run of `..`; an absolute one has none. -/
structure Lexical where
  absolute : Bool
  namesRev : List String
  deriving DecidableEq, Repr

namespace Lexical

/-- The empty relative path. -/
def start : Lexical := ⟨false, []⟩

/-- Reads one more component: the root restarts at `/`, `.` is skipped, `..` removes the
last name (staying at the root, or adding `..` when there is no name to remove), and a
name is appended. -/
def step (l : Lexical) : Component → Lexical
  | .root => ⟨true, []⟩
  | .current => l
  | .parent =>
      match l.namesRev with
      | n :: rest => if n == ".." then ⟨l.absolute, ".." :: l.namesRev⟩ else ⟨l.absolute, rest⟩
      | [] => if l.absolute then l else ⟨false, [".."]⟩
  | .name s => ⟨l.absolute, s :: l.namesRev⟩

/-- The normal form of a list of components read from left to right. -/
def ofComponents (cs : List Component) : Lexical := cs.foldl step start

/-- The normal form written as a path: `/` before the names of an absolute path, names
separated by `/`. -/
def toPath (l : Lexical) : Path :=
  ⟨(if l.absolute then "/" else "") ++ "/".intercalate l.namesRev.reverse⟩

end Lexical

namespace Path

/-- Lexical normalization: `.` parts vanish, `..` removes the name before it, `..` at
the root stays at the root, and a relative path keeps its leading `..`. -/
def normalize (p : Path) : Path := (Lexical.ofComponents p.components).toPath

/-- `p` taken against the directory `base`, then normalized; an absolute `p` ignores
`base`. -/
def resolve (base p : Path) : Path := (base.join p).normalize

/-- The length of the longest common prefix of two lists. -/
def commonPrefixLength {α : Type} [BEq α] : List α → List α → Nat
  | a :: as, b :: bs => if a == b then commonPrefixLength as bs + 1 else 0
  | _, _ => 0

/-- A component that anchors a path: the root. -/
def anchors : Option Component → Bool
  | some .root => true
  | _ => false

/-- The way from the directory `src` to `dst`, both normalized: one `..` for each
component of `src` after the common prefix, then the rest of `dst`. When the two share no
component and one of them starts at the root there is no relative way, and `dst` is
returned as it is. -/
def relative (src dst : Path) : Path :=
  let fc := src.components
  let tc := dst.components
  let common := commonPrefixLength fc tc
  if common == 0 && (anchors fc.head? || anchors tc.head?) then dst
  else
    ⟨"/".intercalate (List.replicate (fc.length - common) ".." ++ (tc.drop common).map Component.text)⟩

/-- The way from the directory of `fromFile` to `toFile`, both taken against `cwd`: a
sibling gives its name and the directory itself gives the empty text. -/
def relativeFrom (cwd fromFile toFile : Path) : Path :=
  let fromDir := fromFile.parent.getD Path.empty
  relative (resolve cwd fromDir) (resolve cwd toFile)

end Path

end ImportPath
