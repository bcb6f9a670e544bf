import ImportPath.Proofs.AliasTable
import ImportPath.Proofs.PathText
import ImportPath.FileSystem.Tree

/-!
# Warnings are diagnostic only

The only warning resolution gives is the one for a bare alias target that no package
answers to. This module shows, for every alias table, that one resolution gives at most that
one warning, says exactly when it is given and with which text, and shows that the warning
never changes the answer: the answer is the alias target, and it is the same whatever the
log level and the checks of bare targets are set to, in the base settings or in any
override, and whatever the locator answers for bare package names
(`warnings_diagnostic_only`).

The reason for the last point is that every other question the chain asks the locator is
a path: the roots are asked for `./` and the specifier, and a relative alias target is
asked for as an absolute path once the working directory is absolute.
-/

namespace ImportPath

/-- Two locators agree on every query whose specifier is written as a path: it starts
with `./`, `../` or `/`. -/
def Locator.AgreeOnPaths (l₁ l₂ : Locator) : Prop :=
  ∀ q base exts, (q.startsWith "./" ∨ q.startsWith "../" ∨ q.startsWith "/") →
    l₁ q base exts = l₂ q base exts

/-- A layer with the log level and the checks of bare alias targets unset. -/
def Layer.sansChecks (l : Layer) : Layer :=
  { l with loglevel := none, verifyExternalAliases := none }

/-- A configuration with the log level and the checks unset in every layer. -/
def Config.sansChecks (c : Config) : Config :=
  ⟨c.base.sansChecks, c.overrides.map fun o => ⟨o.scope, o.layer.sansChecks⟩⟩

namespace Settings

/-- Settings with the log level and the checks at their defaults. -/
def sansChecks (s : Settings) : Settings :=
  { s with loglevel := .warn, verifyExternalAliases := true }

end Settings

namespace Alias

/-- The target a table gives a specifier: the substitution of the first entry that matches
it, when that substitution does not fail. -/
def firstTarget (table : List AnyEntry) (spec : String) : Option String :=
  (firstMatch table spec).bind fun m => (m.1.substitute m.2).toOption

theorem firstTarget_eq_some_iff (table : List AnyEntry) (spec t : String) :
    firstTarget table spec = some t ↔
      ∃ e caps, firstMatch table spec = some (e, caps) ∧ e.substitute caps = .ok t := by
  unfold firstTarget
  constructor
  · intro h
    obtain ⟨⟨e, caps⟩, hm, hsub⟩ := Option.bind_eq_some_iff.1 h
    refine ⟨e, caps, hm, ?_⟩
    cases hs : e.substitute caps <;> simp_all [Except.toOption]
  · rintro ⟨e, caps, hm, hsub⟩
    simp [hm, hsub, Except.toOption]

end Alias

namespace Settings

variable (s : Settings) (loc : Locator) (spec : String) (file : Path)
  (table : List Alias.AnyEntry)

/-- The bare alias target a warning is given for: the target of the table, when it is not
empty, not relative, checks are on, the log level is not `silent`, and the locator finds no
package of that name from the directory of the file. -/
def warnedTarget : Option String :=
  (Alias.firstTarget table spec).filter fun t =>
    decide (t ≠ "" ∧ Specifier.isRelative t = false ∧ s.verifyExternalAliases = true ∧
      s.loglevel ≠ .silent ∧ loc t (s.baseDir file) s.extensions = none)

/-! ## The one warning -/

/-- The chain gives the warnings of the alias strategy: the other strategies give none. -/
theorem resolveTable_warnings :
    (s.resolveTable table loc spec file).warnings = (s.byTable table loc spec file).warnings := by
  rcases hb : (s.byTable table loc spec file).result with err | _ | out
  · rw [resolveTable_of_byTable_error s loc spec file hb]
  · rw [resolveTable, Outcome.orElse_of_miss hb, Outcome.ofResolution_orElse]
    split <;> simp
  · rw [resolveTable, Outcome.orElse_of_some hb]

/-- The warnings of the alias strategy are the warning for the warned target, if any. -/
theorem byTable_warnings :
    (s.byTable table loc spec file).warnings =
      (s.warnedTarget loc spec file table).toList.map (missingTargetWarning · file) := by
  unfold warnedTarget
  cases hm : Alias.firstMatch table spec with
  | none => simp [byTable_of_firstMatch_none s loc spec file hm, Alias.firstTarget, hm]
  | some m =>
    obtain ⟨e, caps⟩ := m
    cases hs : e.substitute caps with
    | error err =>
      simp [byTable_of_substitute_error s loc spec file hm hs, Alias.firstTarget, hm, hs,
        Except.toOption]
    | ok target =>
      rw [byTable_of_substitute_ok s loc spec file hm hs,
        (Alias.firstTarget_eq_some_iff table spec target).2 ⟨e, caps, hm, hs⟩,
        Outcome.ofResolution_warnings]
      cases hne : target.isEmpty
      · have hne' : target ≠ "" := by simpa using hne
        cases hrel : Specifier.isRelative target
        · -- a bare target: the warning is given exactly when all the conditions hold
          rw [aliasAnswer_of_bare s loc file hne hrel]
          by_cases hw : s.verifyExternalAliases = true ∧
              loc target (s.baseDir file) s.extensions = none ∧ s.loglevel ≠ .silent
          · obtain ⟨hverify, hloc, hlevel⟩ := hw
            simp [Option.filter_some, hverify, hloc, hlevel, hne', hrel]
          · simp only [hw, if_false]
            simp only [Option.filter_some, ne_eq, hne', not_false_eq_true, true_and]
            split <;> simp_all
        · simp [aliasAnswer_of_isRelative s loc file hne hrel, hrel]
      · rw [aliasAnswer_of_isEmpty s loc file hne]
        simp [String.isEmpty_iff.1 hne]

theorem resolveTable_warnings_eq :
    (s.resolveTable table loc spec file).warnings =
      (s.warnedTarget loc spec file table).toList.map (missingTargetWarning · file) := by
  rw [resolveTable_warnings, byTable_warnings]

/-- A warned target is the table's target, and the chain answers with it. -/
theorem resolveTable_of_warnedTarget {target : String}
    (h : s.warnedTarget loc spec file table = some target) :
    Alias.firstTarget table spec = some target ∧
      (s.resolveTable table loc spec file).result = .ok (some target) := by
  obtain ⟨ht, hp⟩ := Option.filter_eq_some_iff.1 h
  simp only [decide_eq_true_eq] at hp
  obtain ⟨hne, hrel, -⟩ := hp
  obtain ⟨e, caps, hm, hsub⟩ := (Alias.firstTarget_eq_some_iff table spec target).1 ht
  refine ⟨ht, ?_⟩
  rw [resolveTable_result, byTable_of_substitute_ok s loc spec file hm hsub,
    aliasAnswer_of_bare s loc file (by simpa using hne) hrel]
  rfl

/-! ## What the answer does not depend on -/

/-- The specifier an alias target is answered with does not depend on the log level or the
checks. -/
theorem aliasAnswer_sansChecks_resolved (target : String) :
    (s.sansChecks.aliasAnswer loc target file).resolved = (s.aliasAnswer loc target file).resolved := by
  unfold aliasAnswer
  split
  · rfl
  · split <;> rfl

/-- The alias strategy answers as the target of the entry that decides is answered. -/
theorem byTable_result_congr {s' : Settings} {loc' : Locator}
    (h : ∀ target, (s'.aliasAnswer loc' target file).resolved = (s.aliasAnswer loc target file).resolved) :
    (s'.byTable table loc' spec file).result = (s.byTable table loc spec file).result := by
  cases hm : Alias.firstMatch table spec with
  | none =>
    rw [byTable_of_firstMatch_none s' loc' spec file hm, byTable_of_firstMatch_none s loc spec file hm]
  | some m =>
    obtain ⟨e, caps⟩ := m
    cases hs : e.substitute caps with
    | error err =>
      rw [byTable_of_substitute_error s' loc' spec file hm hs,
        byTable_of_substitute_error s loc spec file hm hs]
    | ok target =>
      rw [byTable_of_substitute_ok s' loc' spec file hm hs, byTable_of_substitute_ok s loc spec file hm hs,
        Outcome.ofResolution_result, Outcome.ofResolution_result, h]

theorem byTable_sansChecks_result :
    (s.sansChecks.byTable table loc spec file).result = (s.byTable table loc spec file).result :=
  byTable_result_congr s loc spec file table (aliasAnswer_sansChecks_resolved s loc file)

theorem resolveTable_sansChecks_result :
    (s.sansChecks.resolveTable table loc spec file).result =
      (s.resolveTable table loc spec file).result := by
  rw [resolveTable_result, resolveTable_result s, byTable_sansChecks_result]
  rfl

/-- The roots only ask the locator for `./` and the specifier. -/
theorem byRoot_congr_locator {loc' : Locator} (h : loc'.AgreeOnPaths loc) :
    s.byRoot loc' spec file = s.byRoot loc spec file := by
  have hq : ∀ dir, loc' ("./" ++ spec) dir s.extensions = loc ("./" ++ spec) dir s.extensions :=
    fun dir => h _ _ _ (Or.inl (by simp))
  simp only [byRoot, hq]

/-- With an absolute working directory, a relative alias target is asked for as an
absolute path. -/
theorem localTarget_congr_locator {loc' : Locator} (h : loc'.AgreeOnPaths loc)
    (hcwd : s.cwd.isAbsolute = true) (target : String) :
    s.localTarget loc' target file = s.localTarget loc target file := by
  have habs : (Path.resolve s.cwd ⟨target⟩).isAbsolute = true := Path.resolve_isAbsolute _ hcwd
  have hq := h (Path.resolve s.cwd ⟨target⟩).text (s.baseDir file) s.extensions
    (Or.inr (Or.inr habs))
  simp only [localTarget, hq]

/-- A bare target is kept whatever the locator says; a relative one is asked for as a
path. -/
theorem aliasAnswer_congr_locator_resolved {loc' : Locator} (h : loc'.AgreeOnPaths loc)
    (hcwd : s.cwd.isAbsolute = true) (target : String) :
    (s.aliasAnswer loc' target file).resolved = (s.aliasAnswer loc target file).resolved := by
  cases hne : target.isEmpty
  · cases hrel : Specifier.isRelative target
    · rw [aliasAnswer_of_bare s loc' file hne hrel, aliasAnswer_of_bare s loc file hne hrel]
    · rw [aliasAnswer_of_isRelative s loc' file hne hrel, aliasAnswer_of_isRelative s loc file hne hrel,
        localTarget_congr_locator s loc file h hcwd]
  · rw [aliasAnswer_of_isEmpty s loc' file hne, aliasAnswer_of_isEmpty s loc file hne]

theorem byTable_congr_locator_result {loc' : Locator} (h : loc'.AgreeOnPaths loc)
    (hcwd : s.cwd.isAbsolute = true) :
    (s.byTable table loc' spec file).result = (s.byTable table loc spec file).result :=
  byTable_result_congr s loc spec file table (aliasAnswer_congr_locator_resolved s loc file h hcwd)

/-- With an absolute working directory, the answer does not depend on how the locator
answers anything but paths. -/
theorem resolveTable_congr_locator_result {loc' : Locator} (h : loc'.AgreeOnPaths loc)
    (hcwd : s.cwd.isAbsolute = true) :
    (s.resolveTable table loc' spec file).result = (s.resolveTable table loc spec file).result := by
  rw [resolveTable_result, resolveTable_result s loc, byTable_congr_locator_result s loc spec file table h hcwd,
    byRoot_congr_locator s loc spec file h]

/-! ## The warning, in words -/

/-- One resolution gives at most one warning. -/
theorem resolveTable_warnings_length_le : (s.resolveTable table loc spec file).warnings.length ≤ 1 := by
  rw [resolveTable_warnings_eq]
  cases s.warnedTarget loc spec file table <;> simp

/-- The warning is given exactly for a non-empty bare target of the entry that decides that
no package answers to, with checks on and a log level other than `silent`. -/
theorem resolveTable_warnings_eq_singleton_iff (w : String) :
    (s.resolveTable table loc spec file).warnings = [w] ↔
      ∃ e caps t, Alias.firstMatch table spec = some (e, caps) ∧ e.substitute caps = .ok t ∧
        t ≠ "" ∧ Specifier.isRelative t = false ∧ s.verifyExternalAliases = true ∧
        s.loglevel ≠ .silent ∧ loc t (file.parent.getD s.cwd) s.extensions = none ∧
        w = missingTargetWarning t file := by
  rw [resolveTable_warnings_eq]
  constructor
  · intro h
    cases ht : s.warnedTarget loc spec file table with
    | none => simp [ht] at h
    | some t =>
      simp only [ht, Option.toList_some, List.map_cons, List.map_nil, List.cons.injEq,
        and_true] at h
      obtain ⟨htarget, hp⟩ := Option.filter_eq_some_iff.1 ht
      simp only [decide_eq_true_eq] at hp
      obtain ⟨hne, hrel, hverify, hlevel, hloc⟩ := hp
      obtain ⟨e, caps, hm, hsub⟩ := (Alias.firstTarget_eq_some_iff table spec t).1 htarget
      exact ⟨e, caps, t, hm, hsub, hne, hrel, hverify, hlevel, hloc, h.symm⟩
  · rintro ⟨e, caps, t, hm, hsub, hne, hrel, hverify, hlevel, hloc, rfl⟩
    have htarget := (Alias.firstTarget_eq_some_iff table spec t).2 ⟨e, caps, hm, hsub⟩
    have ht : s.warnedTarget loc spec file table = some t := by
      simp only [warnedTarget, htarget, Option.filter_some]
      simp [hne, hrel, hverify, hlevel, baseDir, hloc]
    simp [ht]

/-- A resolution that gives a warning answers with the target of the entry that decides. -/
theorem resolveTable_result_of_warnings (h : (s.resolveTable table loc spec file).warnings ≠ []) :
    ∃ e caps t, Alias.firstMatch table spec = some (e, caps) ∧ e.substitute caps = .ok t ∧
      (s.resolveTable table loc spec file).result = .ok (some t) := by
  cases ht : s.warnedTarget loc spec file table with
  | none => simp [resolveTable_warnings_eq, ht] at h
  | some t =>
    obtain ⟨htarget, hres⟩ := s.resolveTable_of_warnedTarget loc spec file table ht
    obtain ⟨e, caps, hm, hsub⟩ := (Alias.firstTarget_eq_some_iff table spec t).1 htarget
    exact ⟨e, caps, t, hm, hsub, hres⟩

end Settings

/-- Unsetting the log level and the checks in the configuration sets them to their
defaults in the settings of every file. -/
theorem settingsFor_sansChecks (fs : FileSystem) (cfg : Config) (file procCwd : Path) :
    cfg.sansChecks.settingsFor fs file procCwd = (cfg.settingsFor fs file procCwd).sansChecks := by
  -- the overrides keep their scopes, so the same one applies, with the same other settings
  have hfind : cfg.sansChecks.overrides.find? (·.scope.contains file procCwd) =
      (cfg.overrides.find? (·.scope.contains file procCwd)).map
        fun o => (⟨o.scope, o.layer.sansChecks⟩ : Override) := by
    simp only [Config.sansChecks, List.find?_map]
    rfl
  simp only [Config.settingsFor, hfind]
  cases cfg.overrides.find? (·.scope.contains file procCwd) <;> rfl

/-- Two configurations that differ only in their log levels and checks, read with two
locators that answer paths the same way, resolve an absolute file alike, with any table. -/
theorem resolveTable_result_congr_checks (fs : FileSystem) {cfg cfg' : Config}
    (table : List Alias.AnyEntry) {loc loc' : Locator} (spec : String) {file procCwd : Path}
    (hfile : file.isAbsolute = true) (hcwd : procCwd.isAbsolute = true)
    (hcfg : cfg'.sansChecks = cfg.sansChecks) (hloc : loc'.AgreeOnPaths loc) :
    ((cfg'.settingsFor fs file procCwd).resolveTable table loc' spec file).result =
      ((cfg.settingsFor fs file procCwd).resolveTable table loc spec file).result := by
  have hs : (cfg'.settingsFor fs file procCwd).sansChecks =
      (cfg.settingsFor fs file procCwd).sansChecks := by
    rw [← settingsFor_sansChecks, hcfg, settingsFor_sansChecks]
  have hcwd' : (cfg'.settingsFor fs file procCwd).cwd.isAbsolute = true :=
    settingsFor_cwd_isAbsolute fs cfg' hfile hcwd
  rw [(cfg'.settingsFor fs file procCwd).resolveTable_congr_locator_result loc spec file table hloc
    hcwd', ← Settings.resolveTable_sansChecks_result, hs, Settings.resolveTable_sansChecks_result]

/-- Warnings are diagnostic only. For a file in a process working in an absolute directory
and any alias table: a resolution gives at most one warning; it gives one exactly when the
first matching entry substitutes a non-empty bare target, checks are on, the log level is
not `silent` and the locator finds no package of that name, with the text
`Could not resolve "target" in file FILE.`; when it gives one it answers with that target;
and the answer is the same for every log level and check setting in any layer and for any
locator that answers paths the same way. -/
theorem warnings_diagnostic_only (fs : FileSystem) (cfg : Config) (table : List Alias.AnyEntry)
    (loc : Locator) (spec : String) (f procCwd : Path) (hcwd : procCwd.isAbsolute = true) :
    let file := Path.resolve procCwd f
    let s := cfg.settingsFor fs file procCwd
    (s.resolveTable table loc spec file).warnings.length ≤ 1 ∧
    (∀ w, (s.resolveTable table loc spec file).warnings = [w] ↔
      ∃ e caps t, Alias.firstMatch table spec = some (e, caps) ∧ e.substitute caps = .ok t ∧
        t ≠ "" ∧ Specifier.isRelative t = false ∧ s.verifyExternalAliases = true ∧
        s.loglevel ≠ .silent ∧ loc t (file.parent.getD s.cwd) s.extensions = none ∧
        w = "Could not resolve \"" ++ t ++ "\" in file " ++ file.text ++ ".") ∧
    ((s.resolveTable table loc spec file).warnings ≠ [] →
      ∃ e caps t, Alias.firstMatch table spec = some (e, caps) ∧ e.substitute caps = .ok t ∧
        (s.resolveTable table loc spec file).result = .ok (some t)) ∧
    (∀ (cfg' : Config) (loc' : Locator), cfg'.sansChecks = cfg.sansChecks →
      loc'.AgreeOnPaths loc →
        ((cfg'.settingsFor fs file procCwd).resolveTable table loc' spec file).result =
          (s.resolveTable table loc spec file).result) :=
  ⟨Settings.resolveTable_warnings_length_le _ loc spec _ table,
    Settings.resolveTable_warnings_eq_singleton_iff _ loc spec _ table,
    Settings.resolveTable_result_of_warnings _ loc spec _ table,
    fun _ _ hcfg hloc => resolveTable_result_congr_checks fs table spec
      (Path.resolve_isAbsolute f hcwd) hcwd hcfg hloc⟩

/-- An entry from `ui` to the bare target `ui-kit`, for a file `a.js` in a process working at
the root, with the default settings and a locator that finds nothing: the resolution warns
once, `Could not resolve "ui-kit" in file /a.js.`, and answers `ui-kit`. -/
theorem warnings_diagnostic_only_for_ui :
    let ui : Alias.AnyEntry :=
      ⟨fun x => if x = "ui" then some ⟨x, [some x]⟩ else none, fun _ => .ok "ui-kit", none⟩
    let file := Path.resolve (Path.ofNames []) (Path.ofNames ["a.js"])
    let s := ({} : Config).settingsFor (FileTree.view {}) file (Path.ofNames [])
    (Path.ofNames []).isAbsolute = true ∧
    (s.resolveTable [ui] (fun _ _ _ => none) "ui" file).warnings =
      ["Could not resolve \"ui-kit\" in file /a.js."] ∧
    (s.resolveTable [ui] (fun _ _ _ => none) "ui" file).result = .ok (some "ui-kit") := by
  intro ui file s
  have hcwd : (Path.ofNames []).isAbsolute = true := ofNames_isAbsolute []
  obtain ⟨-, hwarn, hres, -⟩ := warnings_diagnostic_only (FileTree.view {}) {} [ui]
    (fun _ _ _ => none) "ui" (Path.ofNames ["a.js"]) (Path.ofNames []) hcwd
  have hm : Alias.firstMatch [ui] "ui" = some (ui, ⟨"ui", [some "ui"]⟩) := rfl
  have hfile : file.text = "/a.js" := by
    rw [show file = Path.ofNames ([] ++ ["a.js"]) from Path.IsNormal.resolve_eq ⟨_, by decide, rfl⟩ _]
    decide
  have hw : (s.resolveTable [ui] (fun _ _ _ => none) "ui" file).warnings =
      ["Could not resolve \"ui-kit\" in file /a.js."] := by
    refine (hwarn _).2 ⟨ui, _, "ui-kit", hm, rfl, by decide, by decide +kernel, rfl, by decide, rfl,
      ?_⟩
    rw [hfile]
    rfl
  obtain ⟨e, caps, t, hm', hsub, hres'⟩ := hres (by rw [hw]; simp)
  rw [hm, Option.some_inj, Prod.mk.injEq] at hm'
  obtain ⟨rfl, rfl⟩ := hm'
  cases hsub
  exact ⟨hcwd, hw, hres'⟩

end ImportPath
