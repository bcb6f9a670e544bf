import ImportPath.Proofs.AliasTable
import ImportPath.Proofs.Absolute
import ImportPath.Proofs.PathText
import ImportPath.FileSystem.Tree
import ImportPath.Proofs.KeyProgram

/-!
# The configured working directory stays out of the path math

The working directory a configuration names (the process directory, a path, or the nearest
`package.json` directory) is where relative settings and relative alias targets are taken
from. It is never where the current file is taken from: the file is taken against the
process directory. And it drops out of every way between two absolute paths, since an
absolute path ignores the directory it is taken against.

So the working directory can change a resolution only through a relative root, through an
alias target that is relative without starting at the root, or, for a file at the root
itself, through the directory imports are looked up from. Two configurations that differ
only in their working directory settings resolve every other specifier alike, with the
same warnings (`resolve_independent_of_cwd`).
-/

namespace ImportPath

/-- A layer with the working directory unset. -/
def Layer.sansCwd (l : Layer) : Layer := { l with cwd := none }

/-- A configuration with the working directory unset in every layer. -/
def Config.sansCwd (c : Config) : Config :=
  ⟨c.base.sansCwd, c.overrides.map fun o => ⟨o.scope, o.layer.sansCwd⟩⟩

/-- A locator whose every answer is an absolute path. -/
def Locator.AnswersAbsolute (loc : Locator) : Prop :=
  ∀ q base exts found, loc q base exts = some found → found.isAbsolute = true

namespace Path

/-- A path that starts at the root ignores the directory it is taken against. -/
theorem resolve_of_isAbsolute {p : Path} (base : Path) (hp : p.isAbsolute = true) :
    resolve base p = p.normalize := by
  rw [resolve, join, if_pos hp]

/-- A normal path other than the root has a parent. -/
theorem IsNormal.parent_isSome {p : Path} (hp : p.IsNormal) (hne : p ≠ rootDir) :
    p.parent.isSome := by
  obtain ⟨ns, hns, rfl⟩ := hp
  rcases List.eq_nil_or_concat ns with rfl | ⟨ns0, n, rfl⟩
  · exact absurd (by simp [ofNames, rootDir]) hne
  · rw [List.concat_eq_append] at hns ⊢
    rw [parent_ofNames_append hns]
    rfl

/-- The way from the directory of an absolute file to an absolute path is the same
whichever directory the two are taken against. -/
theorem relativeFrom_of_isAbsolute (cwd cwd' : Path) {file dir target : Path}
    (hfile : file.isAbsolute = true) (hdir : file.parent = some dir)
    (htarget : target.isAbsolute = true) :
    relativeFrom cwd file target = relativeFrom cwd' file target := by
  have hdirAbs := parent_isAbsolute hfile hdir
  simp only [relativeFrom, hdir, Option.getD_some, resolve_of_isAbsolute _ hdirAbs,
    resolve_of_isAbsolute _ htarget]

end Path

namespace Settings

variable (s : Settings) (loc : Locator) (spec : String) (c : Path)

section AbsoluteFile

variable {file dir : Path} (hdir : file.parent = some dir)
include hdir

/-- Imports of a file that has a parent are looked up from it, whatever the working
directory is. -/
theorem baseDir_update_cwd : { s with cwd := c }.baseDir file = s.baseDir file := by
  simp [baseDir, hdir]

variable (hfile : file.isAbsolute = true)
include hfile

/-- The specifier of an absolute file found does not depend on the working directory. -/
theorem specifierOf_update_cwd (written : String) {found : Path}
    (hfound : found.isAbsolute = true) :
    { s with cwd := c }.specifierOf written file found = s.specifierOf written file found := by
  simp only [specifierOf, Path.relativeFrom_of_isAbsolute c s.cwd hfile hdir hfound]

variable {loc} (hloc : loc.AnswersAbsolute)
include hloc

/-- A target that starts at the root is looked up and written without the working
directory. -/
theorem localTarget_update_cwd {target : String} (htarget : (Path.mk target).isAbsolute = true) :
    { s with cwd := c }.localTarget loc target file = s.localTarget loc target file := by
  have habs : ∀ d : Path, Path.resolve d ⟨target⟩ = (Path.mk target).normalize :=
    fun d => Path.resolve_of_isAbsolute d htarget
  unfold localTarget
  rw [habs c, habs s.cwd, baseDir_update_cwd s c hdir]
  dsimp only
  split
  · rename_i found hfound
    -- a file found is one the locator answered, so it is absolute
    have hlocated := (Option.filter_eq_some_iff.1 hfound).1
    exact specifierOf_update_cwd s c hdir hfile target (hloc _ _ _ _ hlocated)
  · rw [Path.relativeFrom_of_isAbsolute c s.cwd hfile hdir (Path.normalize_isAbsolute htarget)]

/-- What the alias strategy makes of a target does not depend on the working directory,
unless the target is relative without starting at the root. -/
theorem aliasAnswer_update_cwd {target : String}
    (htarget : Specifier.isRelative target = true → target.startsWith "/" = true) :
    { s with cwd := c }.aliasAnswer loc target file = s.aliasAnswer loc target file := by
  cases hempty : target.isEmpty
  case true =>
    rw [aliasAnswer_of_isEmpty _ _ _ hempty, aliasAnswer_of_isEmpty _ _ _ hempty]
  case false =>
    cases hrel : Specifier.isRelative target
    case false =>
      rw [aliasAnswer_of_bare _ _ _ hempty hrel, aliasAnswer_of_bare _ _ _ hempty hrel,
        baseDir_update_cwd s c hdir]
    case true =>
      have habs : (Path.mk target).isAbsolute = true := htarget hrel
      rw [aliasAnswer_of_isRelative _ _ _ hempty hrel, aliasAnswer_of_isRelative _ _ _ hempty hrel,
        localTarget_update_cwd s c hdir hfile hloc habs]

theorem byAlias_update_cwd
    (htarget : ∀ t, s.aliasTarget spec = some t → Specifier.isRelative t = true →
      t.startsWith "/" = true) :
    { s with cwd := c }.byAlias loc spec file = s.byAlias loc spec file := by
  cases ht : s.aliasTarget spec with
  | none =>
    rw [byAlias_of_aliasTarget_none s loc spec file ht,
      byAlias_of_aliasTarget_none { s with cwd := c } loc spec file ht]
  | some t =>
    rw [byAlias_of_aliasTarget s loc spec file ht,
      byAlias_of_aliasTarget { s with cwd := c } loc spec file ht]
    exact aliasAnswer_update_cwd s c hdir hfile hloc (htarget t ht)

theorem byRoot_update_cwd :
    { s with cwd := c }.byRoot loc spec file = s.byRoot loc spec file := by
  simp only [byRoot, Resolution.mk.injEq, and_true]
  cases hf : s.root.findSome? (fun d => loc ("./" ++ spec) d s.extensions) with
  | none => simp only [Option.map_none]
  | some found =>
    -- the root hit is an answer of the locator, so it is absolute
    obtain ⟨d, -, hd⟩ := List.exists_of_findSome?_eq_some hf
    simp only [Option.map_some]
    rw [specifierOf_update_cwd s c hdir hfile spec (hloc _ _ _ _ hd)]

/-- For an absolute file with a parent and a locator that answers absolute paths, the chain
does not depend on the working directory, unless the alias target is relative without
starting at the root. -/
theorem resolve_update_cwd
    (htarget : ∀ t, s.aliasTarget spec = some t → Specifier.isRelative t = true →
      t.startsWith "/" = true) :
    { s with cwd := c }.resolve loc spec file = s.resolve loc spec file := by
  simp only [resolve, byAlias_update_cwd s spec c hdir hfile hloc htarget,
    byRoot_update_cwd s spec c hdir hfile hloc]
  rfl

end AbsoluteFile

/-- A root that starts at the root stands for the same directories whatever the working
directory is. -/
theorem rootDirs_of_isAbsolute (fs : FileSystem) (cwd cwd' : Path) {r : String}
    (hr : (Path.mk r).isAbsolute = true) :
    rootDirs fs cwd r = rootDirs fs cwd' r := by
  simp [rootDirs, hr, Path.resolve_of_isAbsolute _ hr]

end Settings

/-- Without working directory settings the same override applies, with the same other
settings. -/
theorem Config.find?_sansCwd (cfg : Config) (file procCwd : Path) :
    cfg.sansCwd.overrides.find? (·.scope.contains file procCwd) =
      (cfg.overrides.find? (·.scope.contains file procCwd)).map
        fun o => (⟨o.scope, o.layer.sansCwd⟩ : Override) := by
  simp only [Config.sansCwd, List.find?_map]
  rfl

theorem Config.layerFor_sansCwd (cfg : Config) (file procCwd : Path) :
    cfg.sansCwd.layerFor file procCwd = (cfg.layerFor file procCwd).sansCwd := by
  simp only [Config.layerFor, Config.find?_sansCwd]
  cases cfg.overrides.find? (·.scope.contains file procCwd) <;> rfl

/-- When every root of the file's layer starts at the root, the settings of the file are
those of the configuration without working directory settings, with the working directory
put back. -/
theorem settingsFor_eq_update_cwd (fs : FileSystem) (cfg : Config) (file procCwd : Path)
    (hroots : ∀ r ∈ (cfg.layerFor file procCwd).root.getD [], (Path.mk r).isAbsolute = true) :
    cfg.settingsFor fs file procCwd =
      { cfg.sansCwd.settingsFor fs file procCwd with
          cwd := (cfg.settingsFor fs file procCwd).cwd } := by
  -- the roots are the only other setting worked out from the working directory
  have hdirs : ∀ cwd cwd' : Path,
      ((cfg.layerFor file procCwd).root.getD []).flatMap (Settings.rootDirs fs cwd) =
        ((cfg.layerFor file procCwd).root.getD []).flatMap (Settings.rootDirs fs cwd') :=
    fun cwd cwd' => congrArg List.flatten
      (List.map_congr_left fun r hr => Settings.rootDirs_of_isAbsolute fs cwd cwd' (hroots r hr))
  simp only [Config.settingsFor, Config.find?_sansCwd]
  cases hm : cfg.overrides.find? (·.scope.contains file procCwd) with
  | none =>
    simp only [Config.layerFor, hm] at hdirs
    simp only [Option.map_none, Config.sansCwd, Layer.sansCwd, Settings.mk.injEq, and_true,
      true_and]
    exact hdirs _ _
  | some o =>
    simp only [Config.layerFor, hm, Layer.overlay] at hdirs
    simp only [Option.map_some, Config.sansCwd, Layer.sansCwd, Layer.overlay, Settings.mk.injEq,
      and_true, true_and]
    exact hdirs _ _

/-- The configured working directory never moves the current file and never enters the
path math between absolute paths. Take a file against an absolute process directory, where
it is not the root itself, and a locator that answers only absolute paths. Two
configurations that differ only in their working directory settings, in the base and in
any override, resolve every specifier to the same specifier with the same warnings, unless
a root of the file's layer is relative, or the alias target of the specifier is relative
without starting at the root. -/
theorem resolve_independent_of_cwd (fs : FileSystem) {cfg cfg' : Config} {loc : Locator}
    (spec : String) (f procCwd : Path) (hcwd : procCwd.isAbsolute = true)
    (hfile : Path.resolve procCwd f ≠ Path.rootDir) (hloc : loc.AnswersAbsolute)
    (hcfg : cfg'.sansCwd = cfg.sansCwd)
    (hroots : ∀ r ∈ (cfg.layerFor (Path.resolve procCwd f) procCwd).root.getD [],
      (Path.mk r).isAbsolute = true)
    (htarget : ∀ t, (cfg.settingsFor fs (Path.resolve procCwd f) procCwd).aliasTarget spec = some t →
      Specifier.isRelative t = true → t.startsWith "/" = true) :
    (cfg'.settingsFor fs (Path.resolve procCwd f) procCwd).resolve loc spec
        (Path.resolve procCwd f) =
      (cfg.settingsFor fs (Path.resolve procCwd f) procCwd).resolve loc spec
        (Path.resolve procCwd f) := by
  set file := Path.resolve procCwd f with hfileDef
  -- the file is taken against the process directory, so it is a normal path with a parent
  have habs : file.isAbsolute = true := Path.resolve_isAbsolute f hcwd
  obtain ⟨dir, hdir⟩ : ∃ dir, file.parent = some dir := Option.isSome_iff_exists.1
    ((Path.normalize_isNormal (Path.join_isAbsolute f hcwd)).parent_isSome hfile)
  -- both configurations share their roots, so both settings are one settings record
  -- with two working directories
  have hroots' : ∀ r ∈ (cfg'.layerFor file procCwd).root.getD [],
      (Path.mk r).isAbsolute = true := by
    have hlayer : (cfg'.layerFor file procCwd).sansCwd = (cfg.layerFor file procCwd).sansCwd := by
      rw [← Config.layerFor_sansCwd, hcfg, Config.layerFor_sansCwd]
    have hroot : (cfg'.layerFor file procCwd).root = (cfg.layerFor file procCwd).root := by
      simpa [Layer.sansCwd] using congrArg Layer.root hlayer
    rwa [hroot]
  rw [settingsFor_eq_update_cwd fs cfg' file procCwd hroots', hcfg,
    settingsFor_eq_update_cwd fs cfg file procCwd hroots]
  have htarget' : ∀ t, (cfg.sansCwd.settingsFor fs file procCwd).aliasTarget spec = some t →
      Specifier.isRelative t = true → t.startsWith "/" = true := by
    rw [settingsFor_eq_update_cwd fs cfg file procCwd hroots] at htarget
    exact htarget
  exact (Settings.resolve_update_cwd _ spec _ hdir habs hloc htarget').trans
    (Settings.resolve_update_cwd _ spec _ hdir habs hloc htarget').symm

/-- The statement for a file under `/proj/src` in a process working in `/proj`, with a root
`/proj/src` and an alias from `@lib` to `/proj/lib`: the working directory of the process
and `/elsewhere` resolve `@lib/x` alike, for a locator that answers `/proj/lib/x.js`. -/
theorem resolve_independent_of_cwd_for_lib :
    let procCwd := Path.ofNames ["proj"]
    let f := Path.ofNames ["proj", "src", "a.js"]
    let entry : Alias.Entry :=
      ⟨⟨Alias.keyPattern "@lib", Alias.keyProgram "@lib"⟩, .append "/proj/lib", none⟩
    let cfg : Config :=
      { base := { root := some ["/proj/src"], cwd := some .process, aliases := some [entry] } }
    let cfg' : Config :=
      { base := { root := some ["/proj/src"], cwd := some (.path ⟨"/elsewhere"⟩),
                  aliases := some [entry] } }
    let loc : Locator := fun _ _ _ => some (Path.ofNames ["proj", "lib", "x.js"])
    let fs := ({} : FileTree).view
    procCwd.isAbsolute = true ∧ Path.resolve procCwd f ≠ Path.rootDir ∧ loc.AnswersAbsolute ∧
    cfg'.sansCwd = cfg.sansCwd ∧
    (∀ r ∈ (cfg.layerFor (Path.resolve procCwd f) procCwd).root.getD [],
      (Path.mk r).isAbsolute = true) ∧
    (∀ t, (cfg.settingsFor fs (Path.resolve procCwd f) procCwd).aliasTarget "@lib/x" = some t →
      Specifier.isRelative t = true → t.startsWith "/" = true) ∧
    (cfg'.settingsFor fs (Path.resolve procCwd f) procCwd).resolve loc "@lib/x"
        (Path.resolve procCwd f) =
      (cfg.settingsFor fs (Path.resolve procCwd f) procCwd).resolve loc "@lib/x"
        (Path.resolve procCwd f) := by
  intro procCwd f entry cfg cfg' loc fs
  have hcwd : procCwd.isAbsolute = true := ofNames_isAbsolute _
  have hfile : Path.resolve procCwd f ≠ Path.rootDir := by
    rw [Path.IsNormal.resolve_eq ⟨_, by decide, rfl⟩]
    decide
  have hloc : loc.AnswersAbsolute := by
    intro q base exts found h
    cases h
    exact ofNames_isAbsolute _
  have hroots : ∀ r ∈ (cfg.layerFor (Path.resolve procCwd f) procCwd).root.getD [],
      (Path.mk r).isAbsolute = true := by
    simp [Config.layerFor, cfg, Path.isAbsolute]
  have htarget : ∀ t, (cfg.settingsFor fs (Path.resolve procCwd f) procCwd).aliasTarget
      "@lib/x" = some t → Specifier.isRelative t = true → t.startsWith "/" = true := by
    intro t ht _
    have hval : (cfg.settingsFor fs (Path.resolve procCwd f) procCwd).aliasTarget "@lib/x" =
        some "/proj/lib/x" := by decide
    rw [hval, Option.some_inj] at ht
    subst ht
    simp only [String.startsWith_string_iff]
    decide
  exact ⟨hcwd, hfile, hloc, rfl, hroots, htarget,
    resolve_independent_of_cwd fs "@lib/x" f procCwd hcwd hfile hloc rfl hroots htarget⟩

end ImportPath
