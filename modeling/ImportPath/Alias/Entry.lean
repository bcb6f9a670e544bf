import ImportPath.Regex.Search
import ImportPath.Alias.Template

/-!
# Alias entries

An alias entry recognises specifiers and rewrites them. Every entry built from a key
holds a compiled regular expression: a key that starts with `^` is itself the pattern;
any other key is a plain key and stands for the pattern `^KEY(/.*|)$` with the key's meta
characters escaped, which matches the key itself and the key followed by `/` and a
subpath without line breaks. Group 0 of a match is the whole specifier; a plain key's
group 1 is what follows the key.

An entry from the configuration rewrites a match into its target: a regular expression
through the target as a template (`\N` for group `N`), a plain key by appending the rest
after the key to the target. A third-party entry rewrites every match into its one
literal path.

The text that describes an entry is the source of its pattern: the key itself, or the
escaped pattern of a plain key.

## What this module delivers

- `Alias.keyPattern` and `Alias.keySource`, the pattern a key stands for.
- `Alias.Entry.ofConfig` and `Alias.Entry.thirdParty`, refusing a key whose pattern does
  not compile with `Alias.InvalidPattern`.
- `Alias.Entry.captures` and `Alias.Entry.substitute`, the groups of a match and the
  rewritten specifier.
-/

namespace ImportPath

namespace Alias

/-- The pattern that a plain key stands for. -/
def keyPattern (k : String) : String :=
  "^" ++ Regex.escapeText k ++ "(/.*|)$"

/-- The pattern a key stands for: a key that starts with `^` is a pattern itself, any other
key is plain. -/
def keySource (k : String) : String :=
  if k.startsWith "^" then k else keyPattern k

/-- How an entry turns a match into a specifier. -/
inductive Substitution where
  /-- Expand a template with the groups. -/
  | template (t : String)
  /-- Append group 1 to the target. -/
  | append (target : String)
  /-- Always the same path. -/
  | literal (path : String)
  deriving Inhabited

/-- The specifier a substitution gives for the groups of a match. -/
def Substitution.apply : Substitution → List (Option String) → String
  | .template t, groups => Template.expand t groups
  | .append target, groups => target ++ ((groups[1]?).bind id).getD ""
  | .literal p, _ => p

/-- A pattern that does not compile, with the reason. -/
structure InvalidPattern where
  pattern : String
  cause : Regex.ParseError

/-- The message of a pattern that does not compile. -/
def InvalidPattern.message (e : InvalidPattern) : String :=
  "Invalid alias pattern `" ++ e.pattern ++ "`: " ++ e.cause.message

/-- An alias entry: the compiled pattern that recognises specifiers, its substitution, and
the literal path of a third-party entry. -/
structure Entry where
  matcher : Regex
  substitution : Substitution
  literal : Option String
  deriving Inhabited

/-- Compiles the pattern of a key. -/
def compileKey (pattern : String) : Except InvalidPattern Regex :=
  match Regex.compile pattern with
  | .ok r => .ok r
  | .error e => .error ⟨pattern, e⟩

/-- The entry of a configured alias from `key` to `target`. -/
def Entry.ofConfig (key target : String) : Except InvalidPattern Entry := do
  let re ← compileKey (keySource key)
  let sub := if key.startsWith "^" then Substitution.template target else .append target
  pure ⟨re, sub, none⟩

/-- The third-party entry from `key` to the literal `path`. -/
def Entry.thirdParty (key path : String) : Except InvalidPattern Entry := do
  pure ⟨← compileKey (keySource key), .literal path, some path⟩

/-- The capture groups of a match of the entry. -/
def Entry.captures (e : Entry) (s : String) : Option (List (Option String)) :=
  e.matcher.captures s

/-- The specifier the entry gives for the groups of a match. -/
def Entry.substitute (e : Entry) (groups : List (Option String)) : String :=
  e.substitution.apply groups

/-- The pattern of the entry, as it is shown. -/
def Entry.describe (e : Entry) : String := e.matcher.source

end Alias

end ImportPath
