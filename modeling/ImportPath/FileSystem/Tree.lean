import ImportPath.FileSystem.Basic

/-!
# File trees

A file tree is a finite file system held as a value: every path that holds something
(a directory, a file with its text, or a symbolic link with its target) is listed by its
names from the root. The root is always a directory.

Looking up a path walks its names from the root. `.` stays, `..` goes to the parent of
the directory reached (symbolic links already followed, as the operating system does),
and a symbolic link is replaced by its target: from the root when the target is
absolute, else from the link's directory. At most forty links are followed in one
lookup. A name longer than 255 bytes, or a path of 4096 bytes or more, is refused; a file in the middle of a path, or at
its end when the path ends with `/`, is not a directory.

## What this module delivers

- `FileTree` with `FileTree.lookup`, and `FileTree.view`, its `FileSystem`.
- `FileTree.mkdirAll`, `FileTree.writeFile` and `FileTree.symlink`, which build a tree,
  creating missing parent directories.
-/

namespace ImportPath

/-- What a path of a file tree holds. -/
inductive TreeEntry where
  | directory
  | file (text : String)
  | link (target : String)
  deriving DecidableEq, Repr, Inhabited

/-- A finite file system: the entries under the root, by their names from the root. -/
structure FileTree where
  entries : List (List String × TreeEntry) := []
  deriving Inhabited

namespace FileTree

/-- The entry at a list of names; the root is a directory. -/
def entry? (t : FileTree) : List String → Option TreeEntry
  | [] => some .directory
  | names => (t.entries.find? (·.1 == names)).map (·.2)

/-- The names of a path, empty names left out. -/
def names (text : String) : List String :=
  (text.splitOn "/").filter (· ≠ "")

/-- The most links one lookup follows. -/
def linkLimit : Nat := 40

/-- Walks `rest` from the directory `dir`: gives where the walk ends and what is there.
`followLast` tells whether a link at the end is followed; `wantDir` whether the end must
be a directory. -/
def walk (t : FileTree) (followLast wantDir : Bool) :
    Nat → Nat → List String → List String → Except IoError (List String × TreeEntry)
  | 0, _, _, _ => .error .tooManyLinks
  | _ + 1, _, dir, [] => .ok (dir, .directory)
  | fuel + 1, links, dir, c :: cs =>
    if c = "." then walk t followLast wantDir fuel links dir cs
    else if c = ".." then walk t followLast wantDir fuel links dir.dropLast cs
    else if c.utf8ByteSize > 255 then .error .nameTooLong
    else
      let p := dir ++ [c]
      match t.entry? p with
      | none => .error .notFound
      | some .directory => walk t followLast wantDir fuel links p cs
      | some (.file text) =>
        if cs.isEmpty && !wantDir then .ok (p, .file text) else .error .notADirectory
      | some (.link target) =>
        if cs.isEmpty && !followLast && !wantDir then .ok (p, .link target)
        else if links ≥ linkLimit then .error .tooManyLinks
        else if target.isEmpty then .error .notFound
        else
          let base := if target.startsWith "/" then [] else dir
          -- a target written with a trailing `/` must be a directory
          let after := if target.endsWith "/" then "." :: cs else cs
          walk t followLast wantDir fuel (links + 1) base (names target ++ after)

/-- Enough steps for any lookup of a path with `n` names. -/
def walkFuel (t : FileTree) (n : Nat) : Nat :=
  n + 1 + (linkLimit + 1) * (t.entries.foldl (fun acc e =>
    match e.2 with
    | .link target => max acc ((names target).length + 2)
    | _ => acc) 1)

/-- Looks up an absolute path; a relative path names nothing, and a path holding a NUL
character is refused before anything else. -/
def lookup (t : FileTree) (followLast : Bool) (p : Path) :
    Except IoError (List String × TreeEntry) :=
  if p.text.contains (Char.ofNat 0) then .error .nulInName
  else if !p.text.startsWith "/" then .error .notFound
  else if p.text.utf8ByteSize ≥ 4096 then .error .nameTooLong
  else
    let ns := names p.text
    walk t followLast (p.text.endsWith "/" && ns != []) (t.walkFuel ns.length) 0 [] ns

/-- The names of the entries right under a directory. -/
def children (t : FileTree) (dir : List String) : List String :=
  t.entries.filterMap fun (k, _) =>
    if k.dropLast == dir && k.length == dir.length + 1 then k.getLast? else none

/-- The tree as a file system. -/
def view (t : FileTree) : FileSystem where
  stat p := do
    let (_, e) ← t.lookup true p
    match e with
    | .file _ => pure .file
    | _ => pure .directory
  present p :=
    match t.lookup false p with
    | .ok _ => true
    | .error _ => false
  list p := do
    match ← t.lookup true p with
    | (dir, .directory) => pure (t.children dir)
    | _ => throw .notADirectory
  read p := do
    match ← t.lookup true p with
    | (_, .file text) => pure text
    | _ => throw .isADirectory

/-- Sets the entry at a list of names, replacing what was there. -/
def put (t : FileTree) (key : List String) (e : TreeEntry) : FileTree :=
  if t.entries.any (·.1 == key) then
    { entries := t.entries.map fun (k, old) => if k == key then (k, e) else (k, old) }
  else { entries := t.entries ++ [(key, e)] }

/-- Creates the directory at a list of names and its missing parents. -/
def mkdirAll (t : FileTree) (key : List String) : FileTree :=
  (List.range key.length).foldl (fun t i =>
    let k := key.take (i + 1)
    match t.entry? k with
    | some _ => t
    | none => t.put k .directory) t

/-- Writes a file, creating missing parent directories. -/
def writeFile (t : FileTree) (key : List String) (text : String) : FileTree :=
  (t.mkdirAll key.dropLast).put key (.file text)

/-- Creates a symbolic link to `target`, creating missing parent directories. -/
def symlink (t : FileTree) (key : List String) (target : String) : FileTree :=
  (t.mkdirAll key.dropLast).put key (.link target)

end FileTree

end ImportPath
