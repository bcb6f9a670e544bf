import ImportPath.Glob.Pattern
import ImportPath.Path.Lexical

/-!
# Scopes of overrides

A scope says which files an override applies to. A scope text holding `*`, `?` or `[` is
a wildcard pattern, matched against the file's path and also against the path relative
to the working directory of the process (when the file lies under it). Any other text is
a directory prefix: the files whose components start with the components of the prefix
resolved against the working directory, so `src` holds `src/a.js` but not `srcx/a.js`.

## What this module delivers

- `Scope` with `Scope.parse`, which refuses a bad pattern with its `Glob.PatternError`.
- `Scope.contains` and `Scope.text`.
-/

namespace ImportPath

/-- Where an override applies: files matching a pattern, or files under a directory. -/
inductive Scope where
  | glob (p : Glob.Pattern)
  | dirPrefix (p : Path)
  deriving Inhabited

namespace Scope

/-- Whether a scope text is a pattern: it holds `*`, `?` or `[`. -/
def isPattern (s : String) : Bool :=
  s.toList.any fun c => c == '*' || c == '?' || c == '['

/-- Reads a scope text. -/
def parse (s : String) : Except Glob.PatternError Scope :=
  if isPattern s then .glob <$> Glob.Pattern.parse s else .ok (.dirPrefix ⟨s⟩)

/-- Whether a file (absolute) lies in the scope, for a process working in `cwd`. -/
def contains (sc : Scope) (file cwd : Path) : Bool :=
  match sc with
  | .glob p =>
    p.matches file.text ||
      match file.stripPrefix? cwd with
      | some rel => p.matches rel.text
      | none => false
  | .dirPrefix d => file.startsWith (Path.resolve cwd d)

/-- The scope as it was written. -/
def text : Scope → String
  | .glob p => p.source
  | .dirPrefix d => d.text

end Scope

end ImportPath
