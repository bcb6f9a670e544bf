import ImportPath.FileSystem.Basic

/-!
# The nearest directory holding a marker

Starting at a directory and going up one parent at a time, the first directory in which
the marker exists is the answer; the walk ends, without an answer, once a path has no
parent (the root, or the empty path).

## What this module delivers

- `FileSystem.findUp`.
-/

namespace ImportPath

namespace FileSystem

/-- Looks for `marker` in `dir` and its ancestors, at most `fuel` of them. -/
def findUpFrom (fs : FileSystem) (marker : String) : Nat → Path → Option Path
  | 0, _ => none
  | fuel + 1, dir =>
    if fs.existsAt (dir.join ⟨marker⟩) then some dir
    else match dir.parent with
      | some up => findUpFrom fs marker fuel up
      | none => none

/-- The nearest of `start` and its ancestors in which `marker` exists. Each parent is
shorter than its child, so the length of `start` bounds the walk. -/
def findUp (fs : FileSystem) (start : Path) (marker : String) : Option Path :=
  findUpFrom fs marker (start.text.length + 2) start

end FileSystem

end ImportPath
