import ImportPath.Resolution

/-!
# Alias tables of any entries

An embedder may build an alias entry from any matcher and any substitution: the matcher
gives the capture groups of a match, together with the text it ran against, and the
substitution turns them into a target, or fails. A failure stops the whole resolution:
no later entry and no later strategy is tried. Entries compiled from a configuration are
such entries whose substitution never fails (`Alias.Entry.toAny`).

With such a table, the alias strategy takes the first entry whose matcher matches the
specifier and substitutes its captures; the target is then treated as with a compiled
table (empty, relative or bare). The strategies are chained as before, each warning
given along the way is kept, and an error of the alias strategy ends the chain.

## What this module delivers

- `Alias.Captures`, `Alias.AnyEntry` and `Alias.Entry.toAny`.
- `Alias.firstMatch`, the entry that decides and its captures.
- `Outcome`, a specifier (or none) or an error, with the warnings given on the way.
- `Settings.aliasAnswer`, what the alias strategy makes of a target.
- `Settings.byTable` and `Settings.resolveTable`, the alias strategy and the chain of
  strategies with a table of any entries in place of the settings' own.
-/

namespace ImportPath

namespace Alias

/-- The groups of a match, with the text the matcher ran against. Group 0 is the whole
match; a group that did not take part in it is `none`. -/
structure Captures where
  input : String
  groups : List (Option String)

/-- An alias entry made of any matcher and any substitution; the substitution may fail. -/
structure AnyEntry where
  captures : String → Option Captures
  substitute : Captures → Except Error String
  literal : Option String

/-- A compiled entry as an entry of any kind: the matcher runs on the specifier itself,
and the substitution never fails. -/
def Entry.toAny (e : Entry) : AnyEntry where
  captures s := (e.captures s).map fun groups => ⟨s, groups⟩
  substitute c := .ok (e.substitute c.groups)
  literal := e.literal

/-- The first entry of a table whose matcher matches `spec`, with the captures. -/
def firstMatch (table : List AnyEntry) (spec : String) : Option (AnyEntry × Captures) :=
  table.findSome? fun e => (e.captures spec).map fun c => (e, c)

end Alias

/-- The outcome of resolving one specifier when resolving can fail: the specifier to write
instead (if any) or the error that stopped the resolution, and the warnings given on the
way, which stand also when an error follows them. -/
structure Outcome where
  result : Except Error (Option String)
  warnings : List String

namespace Outcome

/-- A resolution that did not fail. -/
def ofResolution (r : Resolution) : Outcome := ⟨.ok r.resolved, r.warnings⟩

/-- Runs `next` after `o` when `o` gives neither a specifier nor an error, keeping the
warnings of both; otherwise `o` is the outcome. -/
def orElse (o next : Outcome) : Outcome :=
  match o.result with
  | .ok none => ⟨next.result, o.warnings ++ next.warnings⟩
  | _ => o

end Outcome

namespace Settings

/-- What the alias strategy makes of the target of the entry that matched: nothing for an
empty target, the local specifier for a relative one, and a bare target kept as it is,
with a warning when checks are on, no package of that name is found and the log level is
not `silent`. -/
def aliasAnswer (s : Settings) (loc : Locator) (target : String) (file : Path) : Resolution :=
  if target.isEmpty then ⟨none, []⟩
  else if Specifier.isRelative target then ⟨some (s.localTarget loc target file), []⟩
  else
    let missing := s.verifyExternalAliases && (loc target (s.baseDir file) s.extensions).isNone
    ⟨some target,
      if missing && s.loglevel != .silent then [missingTargetWarning target file] else []⟩

/-- The alias strategy with `table` in place of the settings' own alias table. -/
def byTable (s : Settings) (table : List Alias.AnyEntry) (loc : Locator) (spec : String)
    (file : Path) : Outcome :=
  match Alias.firstMatch table spec with
  | none => ⟨.ok none, []⟩
  | some (e, caps) =>
    match e.substitute caps with
    | .error err => ⟨.error err, []⟩
    | .ok target => .ofResolution (s.aliasAnswer loc target file)

/-- The chain of strategies for `spec` written in `file` (absolute), with `table` in place
of the settings' own alias table. -/
def resolveTable (s : Settings) (table : List Alias.AnyEntry) (loc : Locator) (spec : String)
    (file : Path) : Outcome :=
  (s.byTable table loc spec file).orElse
    ((Outcome.ofResolution (s.byRoot loc spec file)).orElse
      ⟨.ok ((s.byThirdParty spec file).filter (· != spec)), []⟩)

end Settings

end ImportPath
