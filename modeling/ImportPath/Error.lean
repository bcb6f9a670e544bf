import ImportPath.FileSystem.Basic
import ImportPath.Json.Error
import ImportPath.Alias.Entry
import ImportPath.Glob.Pattern

/-!
# Errors of the resolver

Resolution itself never fails on a miss; errors come from reading and compiling the
configuration, and from an alias entry whose substitution cannot give a target (never one
compiled from a configuration).

## What this module delivers

- `Error` and `Error.message`.
-/

namespace ImportPath

/-- Why configuring or running the resolver failed. -/
inductive Error where
  /-- A file system access failed. -/
  | io (cause : IoError)
  /-- The configuration file could not be read. -/
  | configRead (path : Path) (cause : IoError)
  /-- The configuration file is not a valid configuration document. -/
  | configParse (path : Path) (cause : Json.ReadError)
  /-- An alias key is not a valid pattern. -/
  | invalidAliasPattern (e : Alias.InvalidPattern)
  /-- An override's scope is not a valid pattern. -/
  | invalidScope (scope : String) (cause : Glob.PatternError)
  /-- The substitution of an alias entry could not give a target for a specifier. -/
  | substitution (specifier message : String)
  /-- Any other mistake in the configuration. -/
  | other (msg : String)

/-- The message of an error. -/
def Error.message : Error → String
  | .io cause => "IO error: " ++ cause.message
  | .configRead path cause => "Failed to read config at " ++ path.text ++ ": " ++ cause.message
  | .configParse path cause => "Failed to parse config at " ++ path.text ++ ": " ++ cause.message
  | .invalidAliasPattern e => e.message
  | .invalidScope scope cause => "Invalid scope `" ++ scope ++ "`: " ++ cause.message
  | .substitution specifier message =>
    "Alias substitution failed for `" ++ specifier ++ "`: " ++ message
  | .other msg => msg

end ImportPath
