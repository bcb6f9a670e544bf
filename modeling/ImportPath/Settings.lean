import ImportPath.Config.Layer
import ImportPath.FileSystem.Marker
import ImportPath.Glob.Walk

/-!
# Settings for one file

The settings that resolving imports of one file uses, with every default filled in and
every directory made absolute. The first override whose scope holds the file is laid
over the base settings; later overrides are not looked at. Working out the settings
never fails: a root pattern that is not valid gives no directories.

Defaults: the working directory of the process, no roots, the extensions
`.js .jsx .es .es6 .mjs`, rules that strip each extension used, no aliases, no
third-party section, the `warn` level, and checks of bare alias targets.

A root without wildcards is taken against the working directory. A root with
wildcards is expanded on the file system, the working directory standing for itself
(its own wildcard characters are escaped), and only directories are kept.

## What this module delivers

- `Settings`, and `Config.settingsFor`, the settings of a file.
-/

namespace ImportPath

/-- The settings used to resolve the imports of one file. -/
structure Settings where
  /-- The directory that relative settings and paths are taken against. -/
  cwd : Path
  /-- Directories searched for bare specifiers, in order. -/
  root : List Path
  /-- Extensions tried when looking a file up, in order. -/
  extensions : List String
  /-- Rules for a found file whose extension differs from the written one. -/
  extensionRewrites : List ExtensionRewrite
  aliases : List Alias.Entry
  thirdParty : Option ThirdParty
  loglevel : LogLevel
  verifyExternalAliases : Bool
  /-- The scope of the override that applies, if one does. -/
  scope : Option String

namespace Settings

/-- The extensions tried when none are configured. -/
def defaultExtensions : List String := [".js", ".jsx", ".es", ".es6", ".mjs"]

/-- The working directory a setting names, for `file` in a process working in `procCwd`. -/
def workDir (fs : FileSystem) (file procCwd : Path) : WorkDir → Path
  | .process => procCwd
  | .path p => Path.resolve procCwd p
  | .packageJson =>
    match file.parent.bind fun dir => fs.findUp dir "package.json" with
    | some dir => dir
    | none => procCwd

/-- Whether a root holds a wildcard character. -/
def isRootPattern (root : String) : Bool :=
  root.toList.any fun c => c == '*' || c == '?' || c == '['

/-- The directories one root stands for. -/
def rootDirs (fs : FileSystem) (cwd : Path) (root : String) : List Path :=
  if !isRootPattern root then [Path.resolve cwd ⟨root⟩]
  else
    let pattern : Path :=
      if (Path.mk root).isAbsolute then ⟨root⟩
      else (Path.mk (Glob.escape cwd.text)).join (Path.normalize ⟨root⟩)
    match Glob.expand fs pattern.text with
    | .error _ => []
    | .ok paths => (paths.filter fs.isDir).map Path.normalize

end Settings

/-- The settings of `file` (absolute), for a process working in `procCwd`. -/
def Config.settingsFor (fs : FileSystem) (cfg : Config) (file procCwd : Path) : Settings :=
  let matched := cfg.overrides.find? (·.scope.contains file procCwd)
  let layer := match matched with
    | some o => cfg.base.overlay o.layer
    | none => cfg.base
  let cwd := Settings.workDir fs file procCwd (layer.cwd.getD .process)
  let extensions := layer.extensions.getD Settings.defaultExtensions
  { cwd := cwd
    root := (layer.root.getD []).flatMap (Settings.rootDirs fs cwd)
    extensions := extensions
    extensionRewrites := layer.extensionRewrites.getD (extensions.map ExtensionRewrite.strip)
    aliases := layer.aliases.getD []
    thirdParty := layer.thirdParty
    loglevel := layer.loglevel.getD .warn
    verifyExternalAliases := layer.verifyExternalAliases.getD true
    scope := matched.map (·.scope.text) }

end ImportPath
