import ImportPath.Json.Value

/-!
# Configuration documents

The configuration as its authors write it, before anything is checked beyond its shape.
Every field may be left out; alias tables and extension rewrites are kept as JSON
objects, in the order written, and checked when the document is compiled.

```
{ "root": ["./src"], "cwd": "packagejson", "extensions": [".js"],
  "extensionRewrites": { ".ts": ".js" }, "alias": { "@utils": "./src/utils" },
  "thirdParty": { "module": "vendor/kit", "alias": { "widget": "kit-widget" } },
  "loglevel": "warn", "verifyExternalAliases": true,
  "overrides": [{ "scope": "legacy/**", "extensions": [".js"] }] }
```

## What this module delivers

- `LogLevel`, `RawThirdParty` and `RawConfig`, whose overrides are pairs of a scope text
  and a document of their own.
- `RawConfig.fieldNames`, the keys of a document in their order.
-/

namespace ImportPath

/-- How much the resolver reports. -/
inductive LogLevel where
  | silent
  | warn
  deriving DecidableEq, Repr, Inhabited

/-- The name of a level, as written in documents. -/
def LogLevel.text : LogLevel → String
  | .silent => "silent"
  | .warn => "warn"

/-- The names of the levels, in order. -/
def LogLevel.names : List String := ["silent", "warn"]

/-- The level of a name. -/
def LogLevel.ofName? : String → Option LogLevel
  | "silent" => some .silent
  | "warn" => some .warn
  | _ => none

/-- The third-party section of a document: the path marker of the module and its alias
table. -/
structure RawThirdParty where
  module : String
  aliases : Json.Fields := []
  deriving Inhabited

/-- A configuration document; each override pairs a scope text with a document. -/
structure RawConfig where
  root : Option (List String) := none
  cwd : Option String := none
  extensions : Option (List String) := none
  extensionRewrites : Option Json.Fields := none
  aliases : Option Json.Fields := none
  thirdParty : Option RawThirdParty := none
  loglevel : Option LogLevel := none
  verifyExternalAliases : Option Bool := none
  overrides : List (String × RawConfig) := []
  deriving Inhabited

/-- The keys of a document, in order. -/
def RawConfig.fieldNames : List String :=
  ["root", "cwd", "extensions", "extensionRewrites", "alias", "thirdParty", "loglevel",
    "verifyExternalAliases", "overrides"]

end ImportPath
