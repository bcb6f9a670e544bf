import ImportPath.Proofs.LocatedFiles

/-!
# Which override applies, and what its settings are

The settings of a file come from one layer: the base, with the first override whose scope
holds the file laid over it. So the settings of a file are those of a configuration made of
that layer alone, except that they name the scope of the override (`settingsFor_eq_layer`);
an override after the first that holds the file, or one that does not hold it, is never read.

A directory scope holds the files whose components start with the components of the
directory taken against the process directory, so `src` holds `src/a.js` but not
`srcx/a.js`; a pattern scope is tried on the file's path and on its path below the process
directory.

Every default is worked out from the layer: the extensions, the rules that strip them when
no rewrite rule is set, the working directory, and the roots taken against it. An override
wins on every setting it sets (`settingsFor_first_containing_override`).
-/

namespace ImportPath

/-! ## Scopes -/

namespace Scope

variable (file procCwd : Path)

/-- A directory scope holds a file when the components of the directory, taken against the
process directory, start the file's components. -/
theorem contains_dirPrefix_iff (d : Path) :
    (Scope.dirPrefix d).contains file procCwd = true ↔
      (Path.resolve procCwd d).components <+: file.components := by
  simp only [contains, Path.startsWith, Path.isComponentPrefix, List.isPrefixOf_iff_prefix]

/-- `src` does not hold `srcx/a.js`: components are compared, not texts. -/
example : (Scope.dirPrefix ⟨"src"⟩).contains (Path.ofNames ["P", "srcx", "a.js"])
    (Path.ofNames ["P"]) = false := by
  rw [Bool.eq_false_iff, Ne, contains_dirPrefix_iff, Path.resolve,
    Path.ofNames_join_name (by decide) (by decide), Path.normalize_ofNames (by decide),
    components_ofNames (by decide), components_ofNames (by decide)]
  decide

/-- A pattern scope holds a file when it matches the file's path, or its path below the
process directory. -/
theorem contains_glob_iff (p : Glob.Pattern) :
    (Scope.glob p).contains file procCwd = true ↔
      p.matches file.text = true ∨
        ∃ rel, file.stripPrefix? procCwd = some rel ∧ p.matches rel.text = true := by
  simp only [contains, Bool.or_eq_true]
  cases file.stripPrefix? procCwd with
  | none => simp
  | some rel => simp

end Scope

/-! ## The override that applies -/

namespace Config

variable (fs : FileSystem) (cfg : Config) (file procCwd : Path)

/-- The first override that holds the file is found, whatever follows it. -/
theorem find?_of_first {pre post : List Override} {o : Override}
    (hsplit : cfg.overrides = pre ++ o :: post)
    (hpre : ∀ o' ∈ pre, o'.scope.contains file procCwd = false)
    (ho : o.scope.contains file procCwd = true) :
    cfg.overrides.find? (·.scope.contains file procCwd) = some o := by
  have hnone : pre.find? (·.scope.contains file procCwd) = none :=
    List.find?_eq_none.2 fun o' ho' => by simp [hpre o' ho']
  rw [hsplit, List.find?_append, hnone, Option.none_or]
  simp [ho]

theorem find?_of_none (h : ∀ o ∈ cfg.overrides, o.scope.contains file procCwd = false) :
    cfg.overrides.find? (·.scope.contains file procCwd) = none :=
  List.find?_eq_none.2 fun o ho => by simp [h o ho]

/-- The settings of a file are those of its layer alone, naming the scope of the override
that applies. -/
theorem settingsFor_eq_layer :
    cfg.settingsFor fs file procCwd =
      { (Config.mk (cfg.layerFor file procCwd) []).settingsFor fs file procCwd with
          scope := (cfg.overrides.find? (·.scope.contains file procCwd)).map (·.scope.text) } := by
  unfold settingsFor layerFor
  cases cfg.overrides.find? (·.scope.contains file procCwd) <;> rfl

theorem layerFor_of_find? {o : Override}
    (h : cfg.overrides.find? (·.scope.contains file procCwd) = some o) :
    cfg.layerFor file procCwd = cfg.base.overlay o.layer := by
  simp only [layerFor, h]

theorem layerFor_of_find?_none (h : cfg.overrides.find? (·.scope.contains file procCwd) = none) :
    cfg.layerFor file procCwd = cfg.base := by
  simp only [layerFor, h]

/-- The settings of a configuration of one layer, each read off the layer with its default. -/
theorem settingsFor_mk_nil (l : Layer) :
    let s := (Config.mk l []).settingsFor fs file procCwd
    s.cwd = Settings.workDir fs file procCwd (l.cwd.getD .process) ∧
    s.extensions = l.extensions.getD Settings.defaultExtensions ∧
    s.extensionRewrites = l.extensionRewrites.getD (s.extensions.map ExtensionRewrite.strip) ∧
    s.root = (l.root.getD []).flatMap (Settings.rootDirs fs s.cwd) ∧
    s.aliases = l.aliases.getD [] ∧ s.thirdParty = l.thirdParty ∧
    s.loglevel = l.loglevel.getD .warn ∧
    s.verifyExternalAliases = l.verifyExternalAliases.getD true ∧ s.scope = none :=
  ⟨rfl, rfl, rfl, rfl, rfl, rfl, rfl, rfl, rfl⟩

end Config

/-- A root without wildcards stands for itself, taken against the working directory. -/
theorem Settings.rootDirs_of_not_pattern (fs : FileSystem) (cwd : Path) {r : String}
    (hr : Settings.isRootPattern r = false) : Settings.rootDirs fs cwd r = [Path.resolve cwd ⟨r⟩] := by
  simp [Settings.rootDirs, hr]

/-- Option normalization applies the first override whose scope holds the file and derives
every default from the layer that results. A directory scope holds the files below it
component by component, and a pattern scope is tried on the file and on its path below the
process directory. With `o` the first override that holds the file, the settings are those of
the base with `o` laid over it, naming `o`'s scope; with none, those of the base. In the
layer, every setting the override sets wins over the base's; the extensions default to
`.js .jsx .es .es6 .mjs`, the rules to stripping each extension when neither layer sets them,
and each root without wildcards is taken against the working directory. -/
theorem settingsFor_first_containing_override (fs : FileSystem) (cfg : Config)
    (file procCwd : Path) :
    (∀ d : Path, (Scope.dirPrefix d).contains file procCwd = true ↔
      (Path.resolve procCwd d).components <+: file.components) ∧
    (∀ p : Glob.Pattern, (Scope.glob p).contains file procCwd = true ↔
      p.matches file.text = true ∨
        ∃ rel, file.stripPrefix? procCwd = some rel ∧ p.matches rel.text = true) ∧
    (∀ pre o post, cfg.overrides = pre ++ o :: post →
      (∀ o' ∈ pre, o'.scope.contains file procCwd = false) →
      o.scope.contains file procCwd = true →
      cfg.settingsFor fs file procCwd =
        { (Config.mk (cfg.base.overlay o.layer) []).settingsFor fs file procCwd with
            scope := some o.scope.text }) ∧
    ((∀ o ∈ cfg.overrides, o.scope.contains file procCwd = false) →
      cfg.settingsFor fs file procCwd = (Config.mk cfg.base []).settingsFor fs file procCwd) ∧
    (∀ base top : Layer,
      let s := (Config.mk (base.overlay top) []).settingsFor fs file procCwd
      s.cwd = Settings.workDir fs file procCwd ((top.cwd <|> base.cwd).getD .process) ∧
      s.extensions = (top.extensions <|> base.extensions).getD Settings.defaultExtensions ∧
      (top.extensionRewrites = none → base.extensionRewrites = none →
        s.extensionRewrites = s.extensions.map ExtensionRewrite.strip) ∧
      s.root = ((top.root <|> base.root).getD []).flatMap (Settings.rootDirs fs s.cwd) ∧
      (∀ r, Settings.isRootPattern r = false →
        Settings.rootDirs fs s.cwd r = [Path.resolve s.cwd ⟨r⟩]) ∧
      s.aliases = (top.aliases <|> base.aliases).getD [] ∧
      s.thirdParty = (top.thirdParty <|> base.thirdParty) ∧
      s.loglevel = (top.loglevel <|> base.loglevel).getD .warn ∧
      s.verifyExternalAliases =
        (top.verifyExternalAliases <|> base.verifyExternalAliases).getD true) := by
  refine ⟨Scope.contains_dirPrefix_iff file procCwd, Scope.contains_glob_iff file procCwd,
    ?first, ?none, ?defaults⟩
  case first =>
    intro pre o post hsplit hpre ho
    have hfind := cfg.find?_of_first file procCwd hsplit hpre ho
    rw [cfg.settingsFor_eq_layer fs file procCwd, cfg.layerFor_of_find? file procCwd hfind, hfind]
    rfl
  case none =>
    intro h
    have hfind := cfg.find?_of_none file procCwd h
    rw [cfg.settingsFor_eq_layer fs file procCwd, cfg.layerFor_of_find?_none file procCwd hfind,
      hfind]
    rfl
  case defaults =>
    intro base top
    obtain ⟨hcwd, hexts, hrules, hroot, haliases, htp, hlevel, hverify, -⟩ :=
      Config.settingsFor_mk_nil fs file procCwd (base.overlay top)
    refine ⟨hcwd, hexts, fun htop hbase => ?_, hroot,
      fun r hr => Settings.rootDirs_of_not_pattern fs _ hr, haliases, htp, hlevel, hverify⟩
    -- with neither layer setting rules, the rules strip the extensions used
    rw [hrules, show (base.overlay top).extensionRewrites = none by simp [Layer.overlay, htop, hbase]]
    rfl

end ImportPath
