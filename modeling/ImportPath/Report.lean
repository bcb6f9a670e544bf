import ImportPath.Settings
import ImportPath.Json.Write

/-!
# Settings as JSON

The JSON form of the settings of a file, as tools print them. An alias entry is shown
by its pattern and its literal path (`null` for a configured alias); the extension
rewrites form an object from each source extension to its replacement, in rule order.

```
{"cwd": "/p", "root": ["/p/src"], "extensions": [".js"], "extension_rewrites": {".js": ""},
 "alias": [{"pattern": "^@u(/.*|)$", "literal": null}], "third_party": null,
 "loglevel": "warn", "verify_external_aliases": true, "scope": null}
```

## What this module delivers

- `Alias.Entry.toJson` and `Settings.toJson`.
-/

namespace ImportPath

/-- An optional text, or `null`. -/
def Json.ofOption : Option String → Json
  | some s => .string s
  | none => .null

/-- An alias entry: its pattern and its literal path. -/
def Alias.Entry.toJson (e : Alias.Entry) : Json :=
  .object [("pattern", .string e.describe), ("literal", Json.ofOption e.literal)]

/-- The settings of a file. -/
def Settings.toJson (s : Settings) : Json :=
  .object [
    ("cwd", .string s.cwd.text),
    ("root", .array (s.root.map fun p => .string p.text)),
    ("extensions", .array (s.extensions.map .string)),
    ("extension_rewrites",
      .object (s.extensionRewrites.map fun r => (r.source, .string r.target))),
    ("alias", .array (s.aliases.map Alias.Entry.toJson)),
    ("third_party", match s.thirdParty with
      | none => .null
      | some tp => .object [("module", .string tp.module),
          ("alias", .array (tp.aliases.map Alias.Entry.toJson))]),
    ("loglevel", .string s.loglevel.text),
    ("verify_external_aliases", .bool s.verifyExternalAliases),
    ("scope", Json.ofOption s.scope)]

end ImportPath
