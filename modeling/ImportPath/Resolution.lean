import ImportPath.Settings
import ImportPath.Locate.Node

/-!
# Resolving import specifiers

Three strategies rewrite a specifier written in a file, tried in this order; the first
that gives a specifier wins, and when none does the import is left as written.

1. *Alias*: the first alias entry whose pattern matches the whole specifier gives a
   target. An empty target gives nothing. A relative target is taken against the
   working directory and written relative to the file; a bare target is kept, and
   unless checks are off, a warning is given when no package of that name is found.
2. *Root*: the first root directory holding the specifier (as `./specifier`) gives the
   file, written relative to the current file.
3. *Third party*: in a file whose path holds the third-party module marker, a relative
   specifier whose last segment matches a third-party entry becomes that entry's
   literal path. On its own this strategy keeps a bare specifier; in the chain a
   specifier kept as it is counts as nothing.

A found file is written relative to the current file with a leading `./` where it has
none; when its extension differs from the one written in the specifier, the first
extension rewrite that fits is applied.

## What this module delivers

- `Resolution`, a rewritten specifier (or none) and the warnings given on the way.
- `Strategy` with `Strategy.run`, one strategy on its own.
- `Settings.resolve`, the chain of strategies, and `Config.resolve`, which first works
  out the settings of the file.
-/

namespace ImportPath

/-- The outcome of resolving one specifier: the specifier to write instead, if any, and
the warnings given on the way. -/
structure Resolution where
  resolved : Option String
  warnings : List String := []
  deriving DecidableEq, Repr, Inhabited

/-- A way to rewrite a specifier. -/
inductive Strategy where
  | aliases
  | roots
  | thirdParty
  deriving DecidableEq, Repr, Inhabited

namespace Settings

/-- The specifier of a found file, written relative to the current file; `written` is the
specifier as written, whose extension decides whether the rewrites apply. -/
def specifierOf (s : Settings) (written : String) (file found : Path) : String :=
  let rel := (Path.relativeFrom s.cwd file found).text
  let rel := if Specifier.extension found.text != Specifier.extension written then
      ExtensionRewrite.applyFirst s.extensionRewrites rel
    else rel
  Specifier.toLocal rel

/-- Whether two optional paths are equal component by component. -/
def samePlace : Option Path → Option Path → Bool
  | some a, some b => a.components == b.components
  | none, none => true
  | _, _ => false

/-- The directory imports of `file` are looked up from. -/
def baseDir (s : Settings) (file : Path) : Path := file.parent.getD s.cwd

/-- The specifier for a relative alias target: the file it names when one is found as
the target itself or with an extension appended, else the target's own path, both
relative to the current file. -/
def localTarget (s : Settings) (loc : Locator) (target : String) (file : Path) : String :=
  let absolute := Path.resolve s.cwd ⟨target⟩
  let found := (loc absolute.text (s.baseDir file) s.extensions).filter fun f =>
    samePlace f.parent absolute.parent && f.text.startsWith absolute.text
  match found with
  | some f => s.specifierOf target file f
  | none => Specifier.toLocal (Path.relativeFrom s.cwd file absolute).text

/-- The warning for a bare alias target that names no package. -/
def missingTargetWarning (target : String) (file : Path) : String :=
  "Could not resolve \"" ++ target ++ "\" in file " ++ file.text ++ "."

/-- The alias strategy. -/
def byAlias (s : Settings) (loc : Locator) (spec : String) (file : Path) : Resolution :=
  match s.aliases.findSome? fun e => (e.captures spec).map fun g => e.substitute g with
  | none => ⟨none, []⟩
  | some target =>
    if target.isEmpty then ⟨none, []⟩
    else if Specifier.isRelative target then ⟨some (s.localTarget loc target file), []⟩
    else
      let missing := s.verifyExternalAliases && (loc target (s.baseDir file) s.extensions).isNone
      ⟨some target,
        if missing && s.loglevel != .silent then [missingTargetWarning target file] else []⟩

/-- The root strategy. -/
def byRoot (s : Settings) (loc : Locator) (spec : String) (file : Path) : Resolution :=
  let found := s.root.findSome? fun dir => loc ("./" ++ spec) dir s.extensions
  ⟨found.map (s.specifierOf spec file), []⟩

/-- The third-party strategy, which keeps a bare specifier. -/
def byThirdParty (s : Settings) (spec : String) (file : Path) : Option String :=
  if !Specifier.isRelative spec then some spec
  else
    match s.thirdParty with
    | none => none
    | some tp =>
      if tp.module.isEmpty || !Specifier.hasInfix tp.module.toList file.text.toList then none
      else
        let base := String.ofList (Specifier.lastSegment spec.toList)
        (tp.aliases.find? fun e => (e.captures base).isSome).bind (·.literal)

/-- The chain of strategies for `spec` written in `file` (absolute). -/
def resolve (s : Settings) (loc : Locator) (spec : String) (file : Path) : Resolution :=
  let a := s.byAlias loc spec file
  if a.resolved.isSome then a
  else
    let r := s.byRoot loc spec file
    if r.resolved.isSome then r
    else ⟨(s.byThirdParty spec file).filter (· != spec), []⟩

end Settings

/-- Runs one strategy on its own for `spec` written in `file` (absolute). -/
def Strategy.run (st : Strategy) (s : Settings) (loc : Locator) (spec : String)
    (file : Path) : Resolution :=
  match st with
  | .aliases => s.byAlias loc spec file
  | .roots => s.byRoot loc spec file
  | .thirdParty => ⟨s.byThirdParty spec file, []⟩

/-- Resolves `spec` written in `file` for a process working in `procCwd`: the file is
taken against `procCwd`, and its settings are worked out from the configuration. -/
def Config.resolve (fs : FileSystem) (cfg : Config) (spec : String) (file procCwd : Path) :
    Resolution :=
  let file := Path.resolve procCwd file
  (cfg.settingsFor fs file procCwd).resolve (Locator.node fs) spec file

end ImportPath
