import ImportPath.Glob.Pattern
import ImportPath.FileSystem.Basic

/-!
# Expanding a wildcard pattern on a file system

The pattern is cut at each `/` into component patterns and expanded component by
component, starting at the root for an absolute pattern and at the working directory
otherwise. A component without wildcards is looked up directly (it is kept when
anything, even a dangling link, is there; `.` and `..` when the path is a directory);
any other component is matched against the names a directory holds, taken in
increasing order. A `**` component matches the directory itself and every directory
below it. A pattern that ends with `/` yields directories only.

Paths come out depth first: a directory's matches before those of its next sibling.
The whole pattern is checked first, then each component; any fault refuses the pattern.

## What this module delivers

- `Glob.expand`, the paths a pattern matches, in the order found.
-/

namespace ImportPath

namespace Glob

/-- A path still to visit, with the index of the component pattern it must match, or
none once it is known to match the whole pattern. -/
abbrev Pending := Path × Option Nat

/-- The most paths one expansion visits. -/
def visitBudget : Nat := 1000000

/-- Pushes what lies under `path` for the component pattern `idx` onto the stack
`todo` (its head is visited first). -/
def fill (fs : FileSystem) (pats : Array Pattern) : Nat → Nat → Path → List Pending →
    List Pending
  | 0, _, _, todo => todo
  | fuel + 1, idx, path, todo =>
    match pats[idx]? with
    | none => todo
    | some pat =>
      let add (next : Path) (todo : List Pending) : List Pending :=
        if idx + 1 = pats.size then (next, none) :: todo
        else fill fs pats fuel (idx + 1) next todo
      let isDir := fs.isDir path
      let here := path.text == "."
      match pat.literal? with
      | some s =>
        let special := s == "." || s == ".."
        let next : Path := if here then ⟨s⟩ else path.join ⟨s⟩
        if (special && isDir) || (!special && (fs.existsAt next || fs.present next)) then
          add next todo
        else todo
      | none =>
        if !isDir then todo
        else
          match fs.list path with
          | .error _ => todo
          | .ok names =>
            let sorted := names.mergeSort fun a b => decide (b ≤ a)
            let todo := sorted.foldl (fun todo n =>
              ((if here then ⟨n⟩ else path.join ⟨n⟩), some idx) :: todo) todo
            if pat.tokens.head? == some (.char '.') then
              [".", ".."].foldl (fun todo sp =>
                if pat.matches sp then add (path.join ⟨sp⟩) todo else todo) todo
            else todo

/-- The last of a run of `**` components starting at `idx`. -/
def lastRecursive (pats : Array Pattern) : Nat → Nat → Nat
  | 0, idx => idx
  | fuel + 1, idx =>
    if (pats[idx + 1]?.map (·.recursive)).getD false then lastRecursive pats fuel (idx + 1)
    else idx

/-- Matches the name of `path` against component pattern `idx`: the path is a result
when that is the last component, else what lies under it is pushed. -/
def visitName (fs : FileSystem) (pats : Array Pattern) (requireDir : Bool) (path : Path)
    (idx : Nat) (todo : List Pending) : List Pending × Option Path :=
  match path.fileName, pats[idx]? with
  | some name, some pat =>
    if pat.matches name then
      if idx + 1 = pats.size then
        (todo, if !requireDir || fs.isDir path then some path else none)
      else (fill fs pats (pats.size + 1) (idx + 1) path todo, none)
    else (todo, none)
  | _, _ => (todo, none)

/-- Visits one pending path: what to visit next, and the result it yields, if any. -/
def visit (fs : FileSystem) (pats : Array Pattern) (requireDir : Bool) :
    Pending → List Pending → List Pending × Option Path
  | (path, none), todo => (todo, if requireDir && !fs.isDir path then none else some path)
  | (path, some idx), todo =>
    let last := pats.size - 1
    if (pats[idx]?.map (·.recursive)).getD false then
      let next := lastRecursive pats pats.size idx
      if fs.isDir path then
        let todo := fill fs pats (pats.size + 1) next path todo
        if next = last then (todo, some path)
        else visitName fs pats requireDir path (next + 1) todo
      else if next = last then (todo, none)
      else visitName fs pats requireDir path (next + 1) todo
    else visitName fs pats requireDir path idx todo

/-- Visits pending paths until none is left, collecting results in order. -/
def drain (fs : FileSystem) (pats : Array Pattern) (requireDir : Bool) :
    Nat → List Pending → List Path → List Path
  | 0, _, acc => acc.reverse
  | _ + 1, [], acc => acc.reverse
  | fuel + 1, p :: todo, acc =>
    let (todo, out) := visit fs pats requireDir p todo
    drain fs pats requireDir fuel todo (match out with
      | some r => r :: acc
      | none => acc)

/-- The pieces of a text cut at each `/`; an empty last piece is dropped. -/
def components (s : String) : List String :=
  let pieces := s.splitOn "/"
  if pieces.getLast? == some "" then pieces.dropLast else pieces

/-- The paths a pattern matches on a file system, in the order found. -/
def expand (fs : FileSystem) (pattern : String) : Except PatternError (List Path) := do
  let _ ← Pattern.parse pattern
  let absolute := pattern.startsWith "/"
  let scope : Path := if absolute then Path.rootDir else ⟨"."⟩
  let rest := if absolute then String.ofList (pattern.toList.drop 1) else pattern
  let pats := (← (components rest).mapM Pattern.parse).toArray
  if pats.isEmpty then pure []
  else
    let todo := fill fs pats (pats.size + 1) 0 scope []
    pure (drain fs pats (pattern.endsWith "/") visitBudget todo [])

end Glob

end ImportPath
