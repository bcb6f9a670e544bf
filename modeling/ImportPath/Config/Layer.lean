import ImportPath.Config.FromText
import ImportPath.Config.Scope
import ImportPath.Error
import ImportPath.Json.Write
import ImportPath.Specifier

/-!
# Compiled configuration

A document becomes a `Config`: a base `Layer` of settings and the overrides, each a
scope with a layer of its own. A layer leaves a setting unset to inherit it (from the
base, or from the defaults); a layer laid over another wins on every setting it sets.

Compiling checks the overrides first, in order (no nested overrides, a valid scope,
then the override's own settings), and the base settings last. Within one layer the
extension rewrites are checked first, then the alias table, then the third-party alias
table, each entry in the order written; the pattern of every alias key is compiled.
The first fault met is the answer.

## What this module delivers

- `WorkDir`, `ThirdParty`, `Layer` with `Layer.overlay`, `Override` and `Config`.
- `Config.compile`, from a document to a configuration or the first fault.
- `Config.load`, reading, parsing and compiling a configuration file.
-/

namespace ImportPath

/-- The directory that relative settings are taken against. -/
inductive WorkDir where
  /-- The working directory of the process. -/
  | process
  /-- A directory, taken against the working directory of the process. -/
  | path (p : Path)
  /-- The nearest directory holding `package.json`, from the current file up. -/
  | packageJson
  deriving Inhabited

/-- The keyword that asks for the nearest `package.json` directory. -/
def WorkDir.packageJsonKeyword : String := "packagejson"

/-- The setting a document text stands for: the keyword, or a path. -/
def WorkDir.ofText (s : String) : WorkDir :=
  if s == WorkDir.packageJsonKeyword then .packageJson else .path ⟨s⟩

/-- Relative imports made from files whose path holds `module` are matched by their last
segment against `aliases`, whose entries carry the path to use. -/
structure ThirdParty where
  module : String
  aliases : List Alias.Entry

/-- A partial set of settings: an unset one is inherited. -/
structure Layer where
  root : Option (List String) := none
  cwd : Option WorkDir := none
  extensions : Option (List String) := none
  extensionRewrites : Option (List ExtensionRewrite) := none
  aliases : Option (List Alias.Entry) := none
  thirdParty : Option ThirdParty := none
  loglevel : Option LogLevel := none
  verifyExternalAliases : Option Bool := none

/-- Lays `top` over `base`: every setting `top` sets wins. -/
def Layer.overlay (base top : Layer) : Layer where
  root := top.root <|> base.root
  cwd := top.cwd <|> base.cwd
  extensions := top.extensions <|> base.extensions
  extensionRewrites := top.extensionRewrites <|> base.extensionRewrites
  aliases := top.aliases <|> base.aliases
  thirdParty := top.thirdParty <|> base.thirdParty
  loglevel := top.loglevel <|> base.loglevel
  verifyExternalAliases := top.verifyExternalAliases <|> base.verifyExternalAliases

/-- Settings that apply to the files of a scope. -/
structure Override where
  scope : Scope
  layer : Layer

/-- A compiled configuration: base settings and the overrides, in order. -/
structure Config where
  base : Layer := {}
  overrides : List Override := []

namespace Config

/-- The text of a table entry, which must be a string; `table` names the table. -/
def entryText (table key : String) : Json → Except Error String
  | .string s => pure s
  | v => throw (.other (table ++ "." ++ key ++ " must be a string, got " ++ Json.compact v))

/-- Compiles each entry of an optional table. -/
def compileTable {α : Type} (f : String × Json → Except Error α) :
    Option Json.Fields → Except Error (Option (List α))
  | none => pure none
  | some fs => some <$> fs.mapM f

/-- The alias error of an invalid key. -/
def aliasError {α : Type} : Except Alias.InvalidPattern α → Except Error α
  | .ok a => pure a
  | .error e => throw (.invalidAliasPattern e)

/-- Compiles the settings of one document. -/
def compileLayer (raw : RawConfig) : Except Error Layer := do
  let rewrites ← compileTable (fun (k, v) => do
    pure (ExtensionRewrite.mk k (← entryText "extensionRewrites" k v))) raw.extensionRewrites
  let aliases ← compileTable (fun (k, v) => do
    aliasError (Alias.Entry.ofConfig k (← entryText "alias" k v))) raw.aliases
  let thirdParty ← match raw.thirdParty with
    | none => pure none
    | some tp => do
      let entries ← tp.aliases.mapM fun (k, v) => do
        aliasError (Alias.Entry.thirdParty k (← entryText "thirdParty.alias" k v))
      pure (some ⟨tp.module, entries⟩)
  pure {
    root := raw.root
    cwd := raw.cwd.map WorkDir.ofText
    extensions := raw.extensions
    extensionRewrites := rewrites
    aliases := aliases
    thirdParty := thirdParty
    loglevel := raw.loglevel
    verifyExternalAliases := raw.verifyExternalAliases }

/-- Compiles one override: it may not hold overrides of its own, and its scope must be
valid. -/
def compileOverride (entry : String × RawConfig) : Except Error Override := do
  let (scope, raw) := entry
  if !raw.overrides.isEmpty then
    throw (.other ("override `" ++ scope ++ "` cannot contain nested overrides"))
  let sc ← match Scope.parse scope with
    | .ok sc => pure sc
    | .error e => throw (.invalidScope scope e)
  pure ⟨sc, ← compileLayer raw⟩

/-- Compiles a document: the overrides in order, then the base settings. -/
def compile (raw : RawConfig) : Except Error Config := do
  let overrides ← raw.overrides.mapM compileOverride
  pure ⟨← compileLayer raw, overrides⟩

/-- Reads, parses and compiles the configuration file at `path`. -/
def load (fs : FileSystem) (path : Path) : Except Error Config := do
  let text ← match fs.read path with
    | .ok t => pure t
    | .error e => throw (.configRead path e)
  match RawConfig.ofText text with
  | .ok raw => compile raw
  | .error e => throw (.configParse path e)

end Config

end ImportPath
