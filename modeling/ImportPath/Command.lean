import ImportPath.Resolution
import ImportPath.Report
import ImportPath.Json.Pretty
import ImportPath.Json.Read
import ImportPath.FileSystem.Tree
import ImportPath.Version

/-!
# The command line

The tool takes one command and a few flags:

```
version
resolve --file FILE [--config CONFIG] SPECIFIER...
options --file FILE [--config CONFIG]
```

with the flags `--cwd DIR` (the directory relative paths are anchored on, taken against
the working directory), `--json` (machine-readable output of `resolve`) and `-v`,
`--verbose` (accepted and ignored), anywhere on the line. The project tree the
commands work on is read as a JSON listing of absolute paths:
`{"dirs": [...], "files": {path: text}, "symlinks": {path: target}}`.

`resolve` prints `SPECIFIER -> RESULT` per specifier, `(unchanged)` when nothing
applies, or with `--json` one indented document with the schema version, the file and
the results. `options` prints the settings of the file as an indented document. Warnings
go to the error output.

## What this module delivers

- `Invocation.parse`, the reading of the arguments.
- `FileTree.ofListing`, the tree a listing describes.
- `Invocation.run`, what a command prints, or why it fails.
-/

namespace ImportPath

/-- What a run of the tool asks for. -/
inductive Command where
  | version
  | resolve (file : String) (config : Option String) (specifiers : List String)
  | options (file : String) (config : Option String)
  deriving Inhabited

/-- A command with the flags given beside it. -/
structure Invocation where
  command : Command
  json : Bool := false
  cwd : Option String := none
  deriving Inhabited

/-- What a command prints: on the output, and on the error output. -/
structure Output where
  out : String
  err : String := ""
  deriving Inhabited

/-- Arguments read so far: the flags, the words that are not flags, in order. -/
structure Arguments where
  json : Bool := false
  cwd : Option String := none
  file : Option String := none
  config : Option String := none
  words : List String := []

namespace Invocation

/-- Whether a word is a verbosity flag. -/
def isVerbosity (w : String) : Bool :=
  w == "--verbose" || (w.length ≥ 2 && w.startsWith "-" && (w.toList.drop 1).all (· == 'v'))

/-- Reads the arguments one by one; a flag that takes a value takes the next word, or
the text after `=`. -/
def collect : List String → Arguments → Except String Arguments
  | [], acc => pure { acc with words := acc.words.reverse }
  | w :: rest, acc =>
    let valued : List (String × (Arguments → String → Arguments)) :=
      [("--cwd", fun a v => { a with cwd := some v }),
       ("--file", fun a v => { a with file := some v }),
       ("--config", fun a v => { a with config := some v })]
    match valued.find? (fun (name, _) => w == name) with
    | some (name, set) =>
      match rest with
      | v :: more => collect more (set acc v)
      | [] => throw ("a value is required for '" ++ name ++ " <PATH>' but none was supplied")
    | none =>
      match valued.find? (fun (name, _) => w.startsWith (name ++ "=")) with
      | some (name, set) => collect rest (set acc (String.ofList (w.toList.drop (name.length + 1))))
      | none =>
        if w == "--json" then collect rest { acc with json := true }
        else if isVerbosity w then collect rest acc
        else if w.startsWith "-" && w != "-" then throw ("unexpected argument '" ++ w ++ "' found")
        else collect rest { acc with words := w :: acc.words }

/-- Reads the arguments of the tool. -/
def parse (args : List String) : Except String Invocation := do
  let a ← collect args {}
  let fileOf : Except String String := match a.file with
    | some f => pure f
    | none => throw "the following required arguments were not provided: --file <PATH>"
  let command ← match a.words with
    | ["version"] => pure Command.version
    | "resolve" :: specs =>
      if specs.isEmpty then throw "the following required arguments were not provided: <SPECIFIERS>..."
      else pure (Command.resolve (← fileOf) a.config specs)
    | ["options"] => pure (Command.options (← fileOf) a.config)
    | [] => throw "a subcommand is required: version, resolve or options"
    | w :: _ => throw ("unrecognized subcommand '" ++ w ++ "'")
  pure { command := command, json := a.json, cwd := a.cwd }

/-- Whether the command works on a project tree. -/
def needsTree (inv : Invocation) : Bool :=
  match inv.command with
  | .version => false
  | _ => true

end Invocation

/-- The strings of a JSON list. -/
def Json.stringItems (what : String) : Json → Except String (List String)
  | .array items => items.mapM fun
    | .string s => pure s
    | _ => throw (what ++ " must hold strings")
  | _ => throw (what ++ " must be a list")

/-- The string fields of a JSON object. -/
def Json.stringFields (what : String) : Json → Except String (List (String × String))
  | .object fields => fields.mapM fun
    | (k, .string s) => pure (k, s)
    | _ => throw (what ++ " must map paths to strings")
  | _ => throw (what ++ " must be an object")

/-- The tree a listing describes: its directories, then its files, then its symbolic
links, each with the directories above it. Blank text lists nothing. -/
def FileTree.ofListing (text : String) : Except String FileTree := do
  if text.trimAscii.isEmpty then pure {}
  else
    let v ← match Json.parse text with
      | .ok v => pure v
      | .error e => throw ("the project listing is not valid JSON: " ++ e.message)
    let dirs ← match v.field? "dirs" with
      | none => pure []
      | some d => Json.stringItems "dirs" d
    let files ← match v.field? "files" with
      | none => pure []
      | some f => Json.stringFields "files" f
    let links ← match v.field? "symlinks" with
      | none => pure []
      | some l => Json.stringFields "symlinks" l
    let t := dirs.foldl (fun t d => t.mkdirAll (FileTree.names d)) {}
    let t := files.foldl (fun t (p, text) => t.writeFile (FileTree.names p) text) t
    pure (links.foldl (fun t (p, target) => t.symlink (FileTree.names p) target) t)

namespace Invocation

/-- The configuration a command names, read from the tree, or the defaults. -/
def configIn (fs : FileSystem) (cwd : Path) : Option String → Except String Config
  | none => pure {}
  | some c =>
    let path := cwd.join ⟨c⟩
    match Config.load fs path with
    | .ok cfg => pure cfg
    | .error e => throw ("failed to load " ++ path.text ++ ": " ++ e.message)

/-- The report of resolved specifiers. -/
def resolveReport (json : Bool) (file : String) (results : List (String × Resolution)) :
    String :=
  if json then
    Json.pretty (.object [
      ("schema_version", .number (.nat schemaVersion)),
      ("file", .string file),
      ("results", .array (results.map fun (spec, r) =>
        .object [("specifier", .string spec), ("resolved", Json.ofOption r.resolved)]))]) ++ "\n"
  else
    String.join (results.map fun (spec, r) =>
      spec ++ " -> " ++ r.resolved.getD "(unchanged)" ++ "\n")

/-- What a command prints for a project tree given by `listing`, in a process working in
`procCwd`. -/
def run (inv : Invocation) (listing : String) (procCwd : Path) : Except String Output := do
  let cwd := match inv.cwd with
    | some c => procCwd.join ⟨c⟩
    | none => procCwd
  match inv.command with
  | .version => pure ⟨versionString ++ "\n", ""⟩
  | .resolve file config specs =>
    let fs := (← FileTree.ofListing listing).view
    let cfg ← configIn fs cwd config
    let results := specs.map fun spec => (spec, cfg.resolve fs spec ⟨file⟩ cwd)
    let warnings := results.flatMap fun (_, r) => r.warnings
    pure ⟨resolveReport inv.json file results,
      String.join (warnings.map fun w => "warning: " ++ w ++ "\n")⟩
  | .options file config =>
    let fs := (← FileTree.ofListing listing).view
    let cfg ← configIn fs cwd config
    let settings := cfg.settingsFor fs (Path.resolve cwd ⟨file⟩) cwd
    pure ⟨Json.pretty settings.toJson ++ "\n", ""⟩

end Invocation

end ImportPath
