import ImportPath.Proofs.AliasTable
import ImportPath.Proofs.LocatedFiles

/-!
# Where a written specifier leads

The root strategy and the alias strategy for a relative target write a specifier for a file
they found, relative to the current file. This module follows that specifier back from the
directory of the current file: it is local (`./` or `../` first), and joined to the directory
and normalized it leads to the found file, or, when the extension written differs from the
file's, to the file with its extension rewritten by the first rule that fits its name
(`Settings.landing`). An alias target for which no file is found leads to the target's path.

The extension rewrite is applied to the way from the directory to the file, whose last part
is the file's name only when the file is not the directory itself or one of its ancestors.
When it is, the way is a run of `..` (or empty), the rewrite does not see the file's name,
and the specifier leads to the file itself. So the statement here asks, where the written
and found extensions differ, that the file does not hold the current file
(`relative_output_lands`).
-/

namespace ImportPath

namespace Path

/-- A normal path starts with another one whose names start its own. -/
theorem startsWith_ofNames {d g : List String} (hd : ∀ n ∈ d, IsName n)
    (hg : ∀ n ∈ g, IsName n) (h : g <+: d) : (ofNames d).startsWith (ofNames g) = true := by
  rw [startsWith, isComponentPrefix, components_ofNames hd, components_ofNames hg,
    List.isPrefixOf_iff_prefix, List.cons_prefix_cons]
  exact ⟨rfl, (List.prefix_map_iff_of_injective fun _ _ => Component.name.inj).2 h⟩

/-- Names written after `./` lead from a normal directory down through those names. -/
theorem normalize_join_current_names {d ns : List String} (hd : ∀ n ∈ d, IsName n)
    (hns : ∀ n ∈ ns, IsName n) :
    ((ofNames d).join ⟨"./" ++ "/".intercalate ns⟩).normalize = ofNames (d ++ ns) := by
  have habs : (Path.mk ("./" ++ "/".intercalate ns)).isAbsolute = false := by simp [isAbsolute]
  have hdot : ("./" ++ "/".intercalate ns : String) = "." ++ "/" ++ "/".intercalate ns := by simp
  rw [normalize_ofNames_join hd habs, hdot, textComponents_slash_append, textComponents_current,
    List.nil_append, textComponents_intercalate_names hns, Lexical.foldl_step_names,
    ← Lexical.toPath_root]
  simp

theorem normalize_join_current_name {d : List String} (hd : ∀ n ∈ d, IsName n) {n : String}
    (hn : IsName n) : ((ofNames d).join ⟨"./" ++ n⟩).normalize = ofNames (d ++ [n]) := by
  have h := normalize_join_current_names hd (show ∀ m ∈ [n], IsName m by simpa using hn)
  rwa [String.intercalate_singleton] at h

end Path

namespace Settings

variable (s : Settings) (loc : Locator)

/-- The file the root strategy finds for a specifier: the answer to `./` and the specifier
in the first root that has one. -/
def rootHit (spec : String) : Option Path :=
  s.root.findSome? fun dir => loc ("./" ++ spec) dir s.extensions

/-- The file the alias strategy finds for a relative target: the answer for the target's
absolute path, kept when it lies in the same directory and extends the target's text. -/
def aliasHit (target : String) (file : Path) : Option Path :=
  let absolute := Path.resolve s.cwd ⟨target⟩
  (loc absolute.text (s.baseDir file) s.extensions).filter fun f =>
    samePlace f.parent absolute.parent && f.text.startsWith absolute.text

theorem byRoot_resolved (spec : String) (file : Path) :
    (s.byRoot loc spec file).resolved = (s.rootHit loc spec).map (s.specifierOf spec file) := rfl

/-- When the alias strategy misses and a root holds the file, the chain writes the specifier
of that file. -/
theorem resolveTable_of_rootHit {table : List Alias.AnyEntry} {spec : String} {file found : Path}
    (hmiss : (s.byTable table loc spec file).result = .ok none)
    (hhit : s.rootHit loc spec = some found) :
    (s.resolveTable table loc spec file).result = .ok (some (s.specifierOf spec file found)) := by
  rw [resolveTable_result, hmiss, byRoot_resolved, hhit]
  rfl

/-- A relative target of the entry that decides is the chain's answer, written as
`localTarget` gives it. -/
theorem resolveTable_of_relative_target {table : List Alias.AnyEntry} {spec target : String}
    {file : Path} {e : Alias.AnyEntry} {caps : Alias.Captures}
    (hm : Alias.firstMatch table spec = some (e, caps)) (hok : e.substitute caps = .ok target)
    (hrel : Specifier.isRelative target = true) :
    (s.resolveTable table loc spec file).result = .ok (some (s.localTarget loc target file)) := by
  -- the empty target is not relative, so this one is answered
  have hne : target.isEmpty = false := by
    cases h : target.isEmpty
    · rfl
    · rw [String.isEmpty_iff.1 h] at hrel
      cases hrel
  rw [resolveTable_result, byTable_of_substitute_ok s loc spec file hm hok,
    aliasAnswer_of_isRelative s loc file hne hrel]
  rfl

theorem localTarget_eq (target : String) (file : Path) :
    s.localTarget loc target file =
      match s.aliasHit loc target file with
      | some f => s.specifierOf target file f
      | none =>
        Specifier.toLocal (Path.relativeFrom s.cwd file (Path.resolve s.cwd ⟨target⟩)).text :=
  rfl

/-- Where the specifier written for the found file `found` should lead: the file itself when
the extension written is the file's, else the file with its extension rewritten by the first
rule that fits its name. -/
def landing (written : String) (found : Path) : Path :=
  if Specifier.extension found.text = Specifier.extension written then found
  else Path.normalize ⟨ExtensionRewrite.applyFirst s.extensionRewrites found.text⟩

/-- The specifier written for a normal file, from the normal directory of the current file,
is local and leads where `landing` says, unless the file holds the current file and the
extensions differ. -/
theorem specifierOf_lands {written : String} {file dir found : Path}
    (hdir : file.parent = some dir) (hdirn : dir.IsNormal) (hfound : found.IsNormal)
    (hnest : dir.startsWith found = true →
      Specifier.extension found.text = Specifier.extension written) :
    Specifier.hasLocalPrefix (s.specifierOf written file found) = true ∧
      (dir.join ⟨s.specifierOf written file found⟩).normalize = s.landing written found := by
  refine ⟨Specifier.hasLocalPrefix_toLocal _, ?_⟩
  obtain ⟨d, hd, rfl⟩ := hdirn
  obtain ⟨g, hg, rfl⟩ := hfound
  have hrel := Path.relativeFrom_of_isNormal s.cwd hdir ⟨d, hd, rfl⟩ ⟨g, hg, rfl⟩
  unfold specifierOf landing
  by_cases hext : Specifier.extension (Path.ofNames g).text = Specifier.extension written
  · simp only [hext, bne_self_eq_false, Bool.false_eq_true, if_false, if_true, hrel]
    exact Path.normalize_join_relative hd hg
  · -- the file does not hold the directory, so the way to it ends in its name
    have hbelow : Path.commonPrefixLength d g < g.length := by
      refine lt_of_le_of_ne (Path.commonPrefixLength_le_right d g) fun heq => hext ?_
      exact hnest (Path.startsWith_ofNames hd hg (Path.prefix_of_commonPrefixLength_eq heq))
    simp only [bne_iff_ne, ne_eq, hext, not_false_eq_true, if_true, if_false, hrel]
    exact Path.normalize_join_applyFirst_relative hd hg hbelow _

/-! ## The hits on a file tree -/

section FileTree

variable (t : FileTree) {spec : String} (hext : ∀ e ∈ s.extensions, '/' ∉ e.toList)
include hext

/-- With absolute roots, the root strategy only finds normal files on a file tree. -/
theorem rootHit_isNormal (hroots : ∀ r ∈ s.root, r.isAbsolute = true) {found : Path}
    (h : s.rootHit (Locator.node t.view) spec = some found) :
    found.IsNormal ∧ t.view.isFile found = true := by
  obtain ⟨r, hr, hfound⟩ := List.exists_of_findSome?_eq_some h
  have hlocal : Locate.isPathLike ("./" ++ spec) = true := by
    simp [Locate.isPathLike, String.startsWith_string_iff]
  exact Locate.node_isNormal t hext hlocal (Path.join_isAbsolute _ (hroots r hr)) hfound

/-- From an absolute working directory, the alias strategy only finds normal files on a
file tree. -/
theorem aliasHit_isNormal (hcwd : s.cwd.isAbsolute = true) {target : String} {file found : Path}
    (h : s.aliasHit (Locator.node t.view) target file = some found) :
    found.IsNormal ∧ t.view.isFile found = true := by
  have habs := Path.resolve_isAbsolute ⟨target⟩ hcwd
  unfold aliasHit at h
  obtain ⟨hfound, -⟩ := Option.filter_eq_some_iff.1 h
  -- the target is asked for as its absolute path, which is path-like
  have hpath : Locate.isPathLike (Path.resolve s.cwd ⟨target⟩).text = true := by
    simp only [Path.isAbsolute] at habs
    simp [Locate.isPathLike, Specifier.isAbsolutePath, habs]
  have hjoin : ((s.baseDir file).join ⟨(Path.resolve s.cwd ⟨target⟩).text⟩).isAbsolute = true := by
    simp [Path.join, habs]
  exact Locate.node_isNormal t hext hpath hjoin hfound

end FileTree

end Settings

/-- The root `.` is the working directory itself. -/
theorem Settings.rootDirs_current (fs : FileSystem) {cwd : Path} (hcwd : cwd.IsNormal) :
    Settings.rootDirs fs cwd "." = [cwd] := by
  obtain ⟨d, hd, rfl⟩ := hcwd
  have hpat : Settings.isRootPattern "." = false := by decide
  have hdot : Path.resolve (Path.ofNames d) ⟨"."⟩ = Path.ofNames d := by
    rw [Path.resolve, Path.normalize_ofNames_join hd (by simp [Path.isAbsolute]),
      textComponents_current]
    exact Lexical.toPath_root d
  simp [Settings.rootDirs, hpat, hdot]

/-- With `.` as the only root, the roots of a file's settings are the working directory, once
that is a normal path. -/
theorem settingsFor_root_of_current (fs : FileSystem) (cfg : Config) {file procCwd : Path}
    (hroot : (cfg.layerFor file procCwd).root = some ["."])
    (hcwd : (cfg.settingsFor fs file procCwd).cwd.IsNormal) :
    (cfg.settingsFor fs file procCwd).root = [(cfg.settingsFor fs file procCwd).cwd] := by
  rw [settingsFor_root, hroot, Option.getD_some, List.flatMap_cons, List.flatMap_nil,
    List.append_nil, Settings.rootDirs_current fs hcwd]

/-- The default extensions hold no separator. -/
theorem Settings.defaultExtensions_no_slash : ∀ e ∈ Settings.defaultExtensions, '/' ∉ e.toList := by
  decide

/-- Relative outputs are local and land on the found file. Over any file tree and with any
alias table, for a file taken against an absolute process directory and with a parent
directory: when the chain answers with the specifier the root strategy writes for the file
it found, or with the one the alias strategy writes for a relative target, that specifier
starts with `./` or `../`, and joined to the directory and normalized it leads to the found
file, or to it with its extension rewritten when the extension written differs from its own
(`Settings.landing`); an alias target for which no file is found leads to the target's path.
Where the extensions differ, the found file must not hold the directory. -/
theorem relative_output_lands (t : FileTree) (cfg : Config) (table : List Alias.AnyEntry)
    (spec : String) {f procCwd dir : Path} (hcwd : procCwd.isAbsolute = true)
    (hdir : (Path.resolve procCwd f).parent = some dir)
    (hext : ∀ e ∈ (cfg.settingsFor t.view (Path.resolve procCwd f) procCwd).extensions,
      '/' ∉ e.toList) :
    let file := Path.resolve procCwd f
    let s := cfg.settingsFor t.view file procCwd
    let loc := Locator.node t.view
    (∀ found out, (s.byTable table loc spec file).result = .ok none →
      s.rootHit loc spec = some found → (s.resolveTable table loc spec file).result = .ok (some out) →
      (dir.startsWith found = true →
        Specifier.extension found.text = Specifier.extension spec) →
      Specifier.hasLocalPrefix out = true ∧ (dir.join ⟨out⟩).normalize = s.landing spec found) ∧
    (∀ e caps target out, Alias.firstMatch table spec = some (e, caps) →
      e.substitute caps = .ok target → Specifier.isRelative target = true →
      (s.resolveTable table loc spec file).result = .ok (some out) →
      Specifier.hasLocalPrefix out = true ∧
        match s.aliasHit loc target file with
        | none => (dir.join ⟨out⟩).normalize = Path.resolve s.cwd ⟨target⟩
        | some found =>
          (dir.startsWith found = true →
            Specifier.extension found.text = Specifier.extension target) →
          (dir.join ⟨out⟩).normalize = s.landing target found) := by
  intro file s loc
  have hfile : file.isAbsolute = true := Path.resolve_isAbsolute f hcwd
  have hdirn : dir.IsNormal := (Path.normalize_isNormal (Path.join_isAbsolute f hcwd)).parent hdir
  have hscwd : s.cwd.isAbsolute = true := settingsFor_cwd_isAbsolute t.view cfg hfile hcwd
  refine ⟨?_, ?_⟩
  · intro found out hmiss hhit hout hnest
    rw [s.resolveTable_of_rootHit loc hmiss hhit, Except.ok.injEq, Option.some_inj] at hout
    rw [← hout]
    have hfound := s.rootHit_isNormal t hext (settingsFor_root_isAbsolute t cfg hfile hcwd) hhit
    exact s.specifierOf_lands hdir hdirn hfound.1 hnest
  · intro e caps target out hm hok hrel hout
    rw [s.resolveTable_of_relative_target loc hm hok hrel, Except.ok.injEq, Option.some_inj] at hout
    rw [← hout, Settings.localTarget_eq]
    cases hhit : s.aliasHit loc target file with
    | none =>
      -- no file is found, so the specifier is the way to the target's own path
      have htn : (Path.resolve s.cwd ⟨target⟩).IsNormal :=
        Path.normalize_isNormal (Path.join_isAbsolute _ hscwd)
      exact ⟨Specifier.hasLocalPrefix_toLocal _, Path.normalize_join_relativeFrom s.cwd hdir hdirn htn⟩
    | some found =>
      have hfound := s.aliasHit_isNormal t hext hscwd hhit
      exact ⟨Specifier.hasLocalPrefix_toLocal _,
        fun hnest => (s.specifierOf_lands hdir hdirn hfound.1 hnest).2⟩

/-- The root `.` holds `lib.js` for the specifier `lib` written in `src/main.js`: the chain
writes `../lib`, which leads from `src` to `lib.js` with its extension stripped. -/
theorem relative_output_lands_for_lib :
    let root := ["work", "project"]
    let t : FileTree := ⟨[(["work"], .directory), (root, .directory), (root ++ ["src"], .directory),
      (root ++ ["lib.js"], .file "")]⟩
    let cfg : Config := { base := { root := some ["."] } }
    let file := Path.resolve (Path.ofNames root) (Path.ofNames (root ++ ["src", "main.js"]))
    let s := cfg.settingsFor t.view file (Path.ofNames root)
    let loc := Locator.node t.view
    let dir := Path.ofNames (root ++ ["src"])
    let found := Path.ofNames (root ++ ["lib.js"])
    s.rootHit loc "lib" = some found ∧
    (s.resolveTable [] loc "lib" file).result = .ok (some "../lib") ∧
    Specifier.hasLocalPrefix "../lib" = true ∧
    (dir.join ⟨"../lib"⟩).normalize = s.landing "lib" found ∧
    s.landing "lib" found = Path.ofNames (root ++ ["lib"]) := by
  intro root t cfg file s loc dir found
  have hroot : ∀ n ∈ root, IsName n := by decide
  have hdirn : ∀ n ∈ root ++ ["src"], IsName n := by decide
  have hfound : ∀ n ∈ root ++ ["lib.js"], IsName n := by decide
  have hcwd : (Path.ofNames root).isAbsolute = true := ofNames_isAbsolute _
  have hdir : file.parent = some dir := Path.parent_resolve_ofNames _ (root ++ ["src"]) (by decide)
  have hext : ∀ e ∈ s.extensions, '/' ∉ e.toList := Settings.defaultExtensions_no_slash
  have hroots : s.root = [Path.ofNames root] :=
    settingsFor_root_of_current _ cfg rfl ⟨root, hroot, rfl⟩
  have hhit : s.rootHit (Locator.node t.view) "lib" = some found := by
    rw [Settings.rootHit, hroots, show s.extensions = Settings.defaultExtensions from rfl,
      List.findSome?_cons, Locate.node_eq_of_isPathLike _ _ _ (by simp [Locate.isPathLike])
      (by simp; decide), Path.normalize_join_current_name hroot (by decide)]
    simp (disch := decide) only [Locate.resolveFileOrDir, Locate.resolveFile,
      FileTree.view_isFile_eq, FileTree.lookup_ofNames, Settings.defaultExtensions, List.map_cons,
      List.map_nil, Path.withExtension_ofNames_append, List.find?_cons, List.find?_nil]
    decide
  have hmiss : (s.byTable [] loc "lib" file).result = .ok none := rfl
  have hrules : s.extensionRewrites = Settings.defaultExtensions.map ExtensionRewrite.strip := rfl
  -- the way from `src` to `lib.js` goes up once, and its name loses the extension
  have hway : (Path.relativeFrom s.cwd file found).text = "../lib.js" := by
    rw [Path.relativeFrom_of_isNormal s.cwd hdir ⟨_, hdirn, rfl⟩ ⟨_, hfound, rfl⟩,
      Path.relative_ofNames hdirn hfound]
    decide
  have hspec : s.specifierOf "lib" file found = "../lib" := by
    rw [Settings.specifierOf, hway, hrules]
    decide +kernel
  have hres : (s.resolveTable [] loc "lib" file).result = .ok (some "../lib") := by
    rw [s.resolveTable_of_rootHit loc hmiss hhit, hspec]
  have hnest : dir.startsWith found = false := by
    rw [Path.startsWith, Path.isComponentPrefix, components_ofNames hdirn, components_ofNames hfound]
    decide
  obtain ⟨hlocal, hlands⟩ := (relative_output_lands t cfg [] "lib" hcwd hdir hext).1 found "../lib"
    hmiss hhit hres (by simp [hnest])
  have hstrip : ExtensionRewrite.applyFirst s.extensionRewrites found.text =
      (Path.ofNames (root ++ ["lib"])).text := by
    rw [hrules]
    decide
  refine ⟨hhit, hres, hlocal, hlands, ?_⟩
  rw [Settings.landing, if_neg (by decide), hstrip]
  exact Path.normalize_ofNames (by decide)

/-- Where the found file holds the current file, the written specifier does not lead to the
file with its extension rewritten: with `a.js` found for `a` from a file inside `a.js/`, the
way to it is empty, the rewrite sees no name, and `./` leads to `a.js` itself. -/
theorem rewrite_misses_enclosing_file :
    let root := ["work", "project"]
    let t : FileTree := ⟨[(["work"], .directory), (root, .directory), (root ++ ["a.js"], .file "")]⟩
    let cfg : Config := { base := { root := some ["."] } }
    let file := Path.resolve (Path.ofNames root) (Path.ofNames (root ++ ["a.js", "b.js"]))
    let s := cfg.settingsFor t.view file (Path.ofNames root)
    let found := Path.ofNames (root ++ ["a.js"])
    file.parent = some found ∧
    s.rootHit (Locator.node t.view) "a" = some found ∧
    (s.byRoot (Locator.node t.view) "a" file).resolved = some "./" ∧
    (found.join ⟨"./"⟩).normalize = found ∧
    s.landing "a" found = Path.ofNames (root ++ ["a"]) := by
  intro root t cfg file s found
  have hfound : ∀ n ∈ root ++ ["a.js"], IsName n := by decide
  have hparent : file.parent = some found :=
    Path.parent_resolve_ofNames _ (root ++ ["a.js"]) (by decide)
  have hroots : s.root = [Path.ofNames root] :=
    settingsFor_root_of_current _ cfg rfl ⟨root, by decide, rfl⟩
  have hexts : s.extensions = Settings.defaultExtensions := rfl
  have hhit : s.rootHit (Locator.node t.view) "a" = some found := by
    rw [Settings.rootHit, hroots, hexts, List.findSome?_cons, Locate.node_eq_of_isPathLike _ _ _
      (by simp [Locate.isPathLike]) (by decide), Path.normalize_join_current_name (by decide)
      (by decide)]
    simp (disch := decide) only [Locate.resolveFileOrDir, Locate.resolveFile,
      FileTree.view_isFile_eq, FileTree.lookup_ofNames, Settings.defaultExtensions, List.map_cons,
      List.map_nil, Path.withExtension_ofNames_append, List.find?_cons, List.find?_nil]
    decide
  have hrules : s.extensionRewrites = Settings.defaultExtensions.map ExtensionRewrite.strip := rfl
  -- the way from the found file's own directory to it is empty, so no rule sees its name
  have hway : (Path.relativeFrom s.cwd file found).text = "" := by
    rw [Path.relativeFrom_of_isNormal s.cwd hparent ⟨_, hfound, rfl⟩ ⟨_, hfound, rfl⟩,
      Path.relative_ofNames hfound hfound, Path.commonPrefixLength_self]
    simp
  have hcurrent : (found.join ⟨"./"⟩).normalize = found := by
    have hloc : ("./" : String) = Specifier.toLocal "" := by decide
    rw [hloc, Path.normalize_ofNames_join hfound (Specifier.toLocal_not_absolute _),
      Specifier.textComponents_toLocal, textComponents_empty, List.foldl_nil]
    exact Lexical.toPath_root _
  refine ⟨hparent, hhit, ?_, hcurrent, ?_⟩
  · rw [Settings.byRoot_resolved, hhit, Option.map_some, Settings.specifierOf, hway, hrules]
    decide
  · have hstrip : ExtensionRewrite.applyFirst s.extensionRewrites found.text =
        (Path.ofNames (root ++ ["a"])).text := by
      rw [hrules]
      decide
    rw [Settings.landing, if_neg (by decide), hstrip]
    exact Path.normalize_ofNames (by decide)

end ImportPath
