import ImportPath.FileSystem.Basic
import ImportPath.Path.Lexical
import ImportPath.Specifier
import ImportPath.Json.Read

/-!
# Finding the file a specifier names

A locator maps a specifier, the directory it is written in and the list of extensions to
try, to the file it names. The locator here follows the conventions of Node:

- A path-like specifier (`.`, `..`, `./...`, `../...` or absolute) is joined to the base
  directory and normalized; it names that file, else that path with each extension
  appended in order, else, when it is a directory, the file named by the `main` field of
  its `package.json` (as a file, with extensions, or as a directory's index), else the
  directory's `index` with the first extension that exists.
- A bare specifier `name/sub` is looked for in `node_modules/name/sub` of the base
  directory and each of its ancestors, the nearest first; a scoped name `@scope/name`
  keeps its first slash.
- The empty specifier and URL-like ones (`://`, `node:`, `data:`) name nothing.

Paths are returned as they were built: normalized, symbolic links kept.

## What this module delivers

- `Locator`, the shape of a locator, and `Locator.node`, the one described above.
- `splitBare`, the split of a bare specifier into package name and subpath.
-/

namespace ImportPath

/-- Finds the file a specifier names from a base directory, trying extensions. -/
abbrev Locator := String → Path → List String → Option Path

namespace Locate

/-- Specifiers that are paths rather than package names. -/
def isPathLike (s : String) : Bool :=
  s == "." || s == ".." || s.startsWith "./" || s.startsWith "../" || Specifier.isAbsolutePath s

/-- A path with an extension appended to its text. -/
def withExtension (base : Path) (ext : String) : Path := ⟨base.text ++ ext⟩

/-- The path itself when it is a file, else the first of the path with an extension
appended that is one. -/
def resolveFile (fs : FileSystem) (base : Path) (exts : List String) : Option Path :=
  if fs.isFile base then some base
  else (exts.map (withExtension base)).find? fs.isFile

/-- The first `index` file of a directory, in the order of the extensions. -/
def resolveIndex (fs : FileSystem) (dir : Path) (exts : List String) : Option Path :=
  (exts.map fun e => dir.join ⟨"index" ++ e⟩).find? fs.isFile

/-- The `main` field of a `package.json`, when the file reads as JSON and the field is
a string. -/
def packageMain (fs : FileSystem) (file : Path) : Option String :=
  match fs.read file with
  | .error _ => none
  | .ok text =>
    match Json.parse text with
    | .ok v =>
      match v.field? "main" with
      | some (.string s) => some s
      | _ => none
    | .error _ => none

/-- The file a directory stands for: through its `package.json` main entry, else its
index. -/
def resolveDirectory (fs : FileSystem) (dir : Path) (exts : List String) : Option Path :=
  let pkg := dir.join ⟨"package.json"⟩
  let viaMain :=
    if fs.isFile pkg then
      match packageMain fs pkg with
      | some main =>
        let target := (dir.join ⟨main⟩).normalize
        match resolveFile fs target exts with
        | some f => some f
        | none => if fs.isDir target then resolveIndex fs target exts else none
      | none => none
    else none
  match viaMain with
  | some f => some f
  | none => resolveIndex fs dir exts

/-- The file a path stands for: as a file, with an extension, or as a directory. -/
def resolveFileOrDir (fs : FileSystem) (base : Path) (exts : List String) : Option Path :=
  match resolveFile fs base exts with
  | some f => some f
  | none => if fs.isDir base then resolveDirectory fs base exts else none

/-- Splits a bare specifier into its package name and subpath: a scoped name
`@scope/name` ends at the second slash, any other name at the first. -/
def splitBare (s : String) : String × Option String :=
  let cs := s.toList
  let cut := if s.startsWith "@" then
      match (cs.zipIdx.filter (·.1 == '/')) with
      | _ :: (_, i) :: _ => some i
      | _ => none
    else cs.findIdx? (· == '/')
  match cut with
  | some i => (String.ofList (cs.take i), some (String.ofList (cs.drop (i + 1))))
  | none => (s, none)

/-- Looks for a package in `node_modules` of `dir` and its ancestors, at most `fuel` of
them. -/
def resolveBareFrom (fs : FileSystem) (name : String) (sub : Option String)
    (exts : List String) : Nat → Path → Option Path
  | 0, _ => none
  | fuel + 1, dir =>
    let pkgDir := (dir.join ⟨"node_modules"⟩).join ⟨name⟩
    let found :=
      if fs.isDir pkgDir then
        let target := match sub with
          | some s => (pkgDir.join ⟨s⟩).normalize
          | none => pkgDir
        resolveFileOrDir fs target exts
      else none
    match found with
    | some f => some f
    | none =>
      match dir.parent with
      | some up => resolveBareFrom fs name sub exts fuel up
      | none => none

/-- Looks for a bare specifier's package from `baseDir` upwards. -/
def resolveBare (fs : FileSystem) (s : String) (baseDir : Path) (exts : List String) :
    Option Path :=
  let (name, sub) := splitBare s
  resolveBareFrom fs name sub exts (baseDir.text.length + 2) baseDir

end Locate

/-- The locator that follows the conventions of Node over a file system. -/
def Locator.node (fs : FileSystem) : Locator := fun s baseDir exts =>
  if s.isEmpty then none
  else if Specifier.hasInfix "://".toList s.toList || s.startsWith "node:" || s.startsWith "data:" then none
  else if Locate.isPathLike s then
    Locate.resolveFileOrDir fs (baseDir.join ⟨s⟩).normalize exts
  else Locate.resolveBare fs s baseDir exts

end ImportPath
