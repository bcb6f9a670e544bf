import ImportPath.Resolution.AnyTable
import ImportPath.Proofs.Strategies

/-!
# The alias table: the first match decides, and only it can fail

With an alias table of any entries, the alias strategy looks at one entry only: the first
whose matcher matches the specifier. Its substitution decides the answer, and entries in
front of it that do not match, or anything after it, change nothing
(`byTable_first_match_decides`). The chain of strategies fails exactly when that
substitution fails, with the same error and without a warning; a compiled configuration,
whose substitutions never fail, always gives a specifier or none
(`resolve_fails_only_by_substitution`).

The bridge to the compiled tables is `resolveTable_map_toAny`: the chain with the settings'
own table, seen as entries of any kind, is `Settings.resolve`.
-/

namespace ImportPath

namespace Alias

variable (spec : String)

theorem firstMatch_eq_none_iff (table : List AnyEntry) :
    firstMatch table spec = none ↔ ∀ e ∈ table, e.captures spec = none := by
  simp [firstMatch]

/-- The first match of a table is an entry that matches, after entries that do not. -/
theorem firstMatch_eq_some_iff (table : List AnyEntry) (e : AnyEntry) (caps : Captures) :
    firstMatch table spec = some (e, caps) ↔
      ∃ pre post, table = pre ++ e :: post ∧ e.captures spec = some caps ∧
        ∀ x ∈ pre, x.captures spec = none := by
  unfold firstMatch
  rw [List.findSome?_eq_some_iff]
  constructor
  · rintro ⟨pre, x, post, rfl, hx, hpre⟩
    obtain ⟨c, hc, hxc⟩ := Option.map_eq_some_iff.1 hx
    simp only [Prod.mk.injEq] at hxc
    obtain ⟨rfl, rfl⟩ := hxc
    exact ⟨pre, post, rfl, hc, fun y hy => by simpa using hpre y hy⟩
  · rintro ⟨pre, post, rfl, hc, hpre⟩
    exact ⟨pre, e, post, rfl, by simp [hc], fun y hy => by simp [hpre y hy]⟩

/-- Entries in front of a table that do not match are passed over. -/
theorem firstMatch_append_of_no_match {pre : List AnyEntry} (table : List AnyEntry)
    (hpre : ∀ x ∈ pre, x.captures spec = none) :
    firstMatch (pre ++ table) spec = firstMatch table spec := by
  have hnone : firstMatch pre spec = none := (firstMatch_eq_none_iff spec pre).2 hpre
  unfold firstMatch at hnone ⊢
  rw [List.findSome?_append, hnone, Option.none_or]

/-- An entry that matches decides; the entries after it are never looked at. -/
theorem firstMatch_cons_of_captures {e : AnyEntry} {caps : Captures}
    (h : e.captures spec = some caps) (post : List AnyEntry) :
    firstMatch (e :: post) spec = some (e, caps) := by
  simp [firstMatch, h]

/-- The first match of a compiled table, with its substitution done: the target of the first
compiled entry that matches, which never fails. -/
theorem firstMatch_map_toAny_substitute (entries : List Entry) :
    (firstMatch (entries.map Entry.toAny) spec).map (fun m => m.1.substitute m.2) =
      (entries.findSome? fun e => (e.captures spec).map fun g => e.substitute g).map .ok := by
  induction entries with
  | nil => rfl
  | cons e rest ih =>
    cases h : e.captures spec with
    | none =>
      have hany : (e.toAny).captures spec = none := by simp [Entry.toAny, h]
      simpa [firstMatch, List.findSome?_cons, hany, h] using ih
    | some groups =>
      simp [firstMatch, h, Entry.toAny]

end Alias

namespace Outcome

/-- The answer of strategies tried one after the other, read from their answers on their
own: the first that is an error or names a specifier, and no specifier when all miss. -/
def firstAnswer : List (Except Error (Option String)) → Except Error (Option String)
  | [] => .ok none
  | .ok none :: rest => firstAnswer rest
  | r :: _ => r

@[simp] theorem firstAnswer_singleton (r : Except Error (Option String)) : firstAnswer [r] = r := by
  rcases r with e | _ | out <;> rfl

/-- The answers of a later part of the chain count as one answer. -/
theorem firstAnswer_cons_firstAnswer (r : Except Error (Option String))
    (rs : List (Except Error (Option String))) :
    firstAnswer [r, firstAnswer rs] = firstAnswer (r :: rs) := by
  rcases r with e | _ | out <;> simp [firstAnswer]

variable {o : Outcome}

@[simp] theorem ofResolution_result (r : Resolution) : (ofResolution r).result = .ok r.resolved :=
  rfl

@[simp] theorem ofResolution_warnings (r : Resolution) : (ofResolution r).warnings = r.warnings :=
  rfl

/-- After a miss the next strategy runs, and the warnings of both are kept. -/
theorem orElse_of_miss (h : o.result = .ok none) (next : Outcome) :
    o.orElse next = ⟨next.result, o.warnings ++ next.warnings⟩ := by
  simp [orElse, h]

/-- A failure ends the chain. -/
theorem orElse_of_error {err : Error} (h : o.result = .error err) (next : Outcome) :
    o.orElse next = o := by
  simp [orElse, h]

/-- A specifier ends the chain. -/
theorem orElse_of_some {out : String} (h : o.result = .ok (some out)) (next : Outcome) :
    o.orElse next = o := by
  simp [orElse, h]

/-- A chain fails when its first stage fails, or misses and the rest fails. -/
theorem orElse_result_eq_error_iff (next : Outcome) (err : Error) :
    (o.orElse next).result = .error err ↔
      o.result = .error err ∨ (o.result = .ok none ∧ next.result = .error err) := by
  rcases o with ⟨(e | (_ | out)), w⟩ <;> simp [orElse]

/-- Two stages answer with the first answer of the two. -/
theorem orElse_result (o next : Outcome) : (o.orElse next).result = firstAnswer [o.result, next.result] := by
  rcases o with ⟨(e | _ | out), w⟩ <;> simp [orElse, firstAnswer]

/-- A resolution that did not fail, run before another stage, is the chain of the two. -/
theorem ofResolution_orElse (r : Resolution) (next : Outcome) :
    (ofResolution r).orElse next =
      if r.resolved.isSome then ofResolution r
      else ⟨next.result, r.warnings ++ next.warnings⟩ := by
  cases h : r.resolved <;> simp [orElse, ofResolution, h]

end Outcome

namespace Settings

variable (s : Settings) (loc : Locator) (spec : String) (file : Path)

/-! ## The compiled table as a table of any entries -/

/-- The alias strategy of the settings answers as its target is answered. -/
theorem byAlias_of_aliasTarget {target : String} (h : s.aliasTarget spec = some target) :
    s.byAlias loc spec file = s.aliasAnswer loc target file := by
  unfold aliasTarget at h
  simp [byAlias, aliasAnswer, h]

/-- The compiled table, as entries of any kind, gives the alias strategy of the settings. -/
theorem byTable_map_toAny :
    s.byTable (s.aliases.map Alias.Entry.toAny) loc spec file =
      .ofResolution (s.byAlias loc spec file) := by
  have hsub := Alias.firstMatch_map_toAny_substitute spec s.aliases
  unfold byTable
  cases hm : Alias.firstMatch (s.aliases.map Alias.Entry.toAny) spec with
  | none =>
    rw [hm] at hsub
    change none = (s.aliasTarget spec).map Except.ok at hsub
    have ht : s.aliasTarget spec = none := Option.map_eq_none_iff.1 hsub.symm
    simp [byAlias_of_aliasTarget_none s loc spec file ht, Outcome.ofResolution]
  | some m =>
    obtain ⟨e, caps⟩ := m
    rw [hm] at hsub
    change some (e.substitute caps) = (s.aliasTarget spec).map Except.ok at hsub
    -- the substitution of the decisive entry is the target of the compiled table
    cases ht : s.aliasTarget spec with
    | none => rw [ht] at hsub; cases hsub
    | some target =>
      rw [ht] at hsub
      have hsubst : e.substitute caps = .ok target := Option.some.inj hsub
      simp [hsubst, byAlias_of_aliasTarget s loc spec file ht]

/-- The chain with the compiled table, as entries of any kind, is the chain of the
settings: it never fails, and gives the same specifier and warnings. -/
theorem resolveTable_map_toAny :
    s.resolveTable (s.aliases.map Alias.Entry.toAny) loc spec file =
      .ofResolution (s.resolve loc spec file) := by
  unfold resolveTable
  rw [byTable_map_toAny, Outcome.ofResolution_orElse, Outcome.ofResolution_orElse]
  by_cases ha : (s.byAlias loc spec file).resolved.isSome
  · simp [ha, resolve_of_byAlias s loc spec file ha]
  · have hnone : (s.byAlias loc spec file).resolved = none := by simpa using ha
    have hmiss := byAlias_of_resolved_none s loc spec file hnone
    rw [resolve_of_byAlias_none s loc spec file hnone, hmiss]
    -- the root strategy answers, or the third-party one does, in both chains alike
    cases hr : (s.byRoot loc spec file).resolved <;> simp [hr, Outcome.ofResolution]

/-! ## What the alias strategy does with the entry that decides -/

/-- An empty target gives nothing. -/
theorem aliasAnswer_of_isEmpty {target : String} (h : target.isEmpty = true) :
    s.aliasAnswer loc target file = ⟨none, []⟩ := by
  simp [aliasAnswer, h]

/-- A relative target gives its local specifier, without a warning. -/
theorem aliasAnswer_of_isRelative {target : String} (hne : target.isEmpty = false)
    (hrel : Specifier.isRelative target = true) :
    s.aliasAnswer loc target file = ⟨some (s.localTarget loc target file), []⟩ := by
  simp [aliasAnswer, hne, hrel]

/-- A bare target is kept, with a warning when checks are on, the locator finds no package
of that name and the log level is not `silent`. -/
theorem aliasAnswer_of_bare {target : String} (hne : target.isEmpty = false)
    (hrel : Specifier.isRelative target = false) :
    s.aliasAnswer loc target file =
      ⟨some target,
        if s.verifyExternalAliases = true ∧ loc target (s.baseDir file) s.extensions = none ∧
            s.loglevel ≠ .silent
          then [missingTargetWarning target file] else []⟩ := by
  simp [aliasAnswer, hne, hrel, and_assoc]

theorem byTable_of_firstMatch_none {table : List Alias.AnyEntry}
    (h : Alias.firstMatch table spec = none) :
    s.byTable table loc spec file = ⟨.ok none, []⟩ := by
  simp [byTable, h]

theorem byTable_of_substitute_error {table : List Alias.AnyEntry} {e : Alias.AnyEntry}
    {caps : Alias.Captures} {err : Error} (h : Alias.firstMatch table spec = some (e, caps))
    (herr : e.substitute caps = .error err) :
    s.byTable table loc spec file = ⟨.error err, []⟩ := by
  simp [byTable, h, herr]

theorem byTable_of_substitute_ok {table : List Alias.AnyEntry} {e : Alias.AnyEntry}
    {caps : Alias.Captures} {target : String} (h : Alias.firstMatch table spec = some (e, caps))
    (hok : e.substitute caps = .ok target) :
    s.byTable table loc spec file = .ofResolution (s.aliasAnswer loc target file) := by
  simp [byTable, h, hok]

/-- The alias strategy is a function of the first match. -/
theorem byTable_congr_firstMatch {table table' : List Alias.AnyEntry}
    (h : Alias.firstMatch table spec = Alias.firstMatch table' spec) :
    s.byTable table loc spec file = s.byTable table' loc spec file := by
  simp only [byTable, h]

/-- With an empty target the chain goes on as with no alias table. -/
theorem resolveTable_of_byTable_miss {table : List Alias.AnyEntry}
    (h : s.byTable table loc spec file = ⟨.ok none, []⟩) :
    s.resolveTable table loc spec file = s.resolveTable [] loc spec file := by
  have hempty : s.byTable [] loc spec file = ⟨.ok none, []⟩ :=
    byTable_of_firstMatch_none s loc spec file rfl
  simp only [resolveTable, h, hempty]

/-- The first matching entry decides the alias strategy. With no matching entry it gives
nothing. Otherwise the substitution of that entry's captures decides: a failure is the
answer as it is; an empty target gives nothing, and the chain goes on as with no alias
table; a relative target gives its local specifier; any other target is kept as it is,
with the warning of a missing package. Entries in front that do not match, and any
entries after the one that matches, change neither the answer nor the warnings. -/
theorem byTable_first_match_decides :
    (∀ table table' : List Alias.AnyEntry,
      Alias.firstMatch table spec = Alias.firstMatch table' spec →
        s.byTable table loc spec file = s.byTable table' loc spec file) ∧
    (∀ table : List Alias.AnyEntry, Alias.firstMatch table spec = none →
      s.byTable table loc spec file = ⟨.ok none, []⟩) ∧
    (∀ (table : List Alias.AnyEntry) (e : Alias.AnyEntry) (caps : Alias.Captures),
      Alias.firstMatch table spec = some (e, caps) →
        (∀ err, e.substitute caps = .error err →
          s.byTable table loc spec file = ⟨.error err, []⟩) ∧
        (e.substitute caps = .ok "" →
          s.byTable table loc spec file = ⟨.ok none, []⟩ ∧
          s.resolveTable table loc spec file = s.resolveTable [] loc spec file) ∧
        (∀ target, e.substitute caps = .ok target → target ≠ "" →
          Specifier.isRelative target = true →
            s.byTable table loc spec file = ⟨.ok (some (s.localTarget loc target file)), []⟩) ∧
        (∀ target, e.substitute caps = .ok target → target ≠ "" →
          Specifier.isRelative target = false →
            s.byTable table loc spec file =
              ⟨.ok (some target),
                if s.verifyExternalAliases = true ∧
                    loc target (s.baseDir file) s.extensions = none ∧ s.loglevel ≠ .silent
                  then [missingTargetWarning target file] else []⟩)) ∧
    (∀ (pre pre' post post' : List Alias.AnyEntry) (e : Alias.AnyEntry),
      (∀ x ∈ pre, x.captures spec = none) → (∀ x ∈ pre', x.captures spec = none) →
      (e.captures spec).isSome →
        s.byTable (pre ++ e :: post) loc spec file =
          s.byTable (pre' ++ e :: post') loc spec file) := by
  refine ⟨fun _ _ h => byTable_congr_firstMatch s loc spec file h,
    fun _ h => byTable_of_firstMatch_none s loc spec file h, ?_, ?_⟩
  · intro table e caps hm
    refine ⟨fun err herr => byTable_of_substitute_error s loc spec file hm herr, ?_, ?_, ?_⟩
    · intro hok
      have hmiss : s.byTable table loc spec file = ⟨.ok none, []⟩ := by
        rw [byTable_of_substitute_ok s loc spec file hm hok, aliasAnswer_of_isEmpty s loc file rfl]
        rfl
      exact ⟨hmiss, resolveTable_of_byTable_miss s loc spec file hmiss⟩
    · intro target hok hne hrel
      rw [byTable_of_substitute_ok s loc spec file hm hok,
        aliasAnswer_of_isRelative s loc file (by simpa using hne) hrel]
      rfl
    · intro target hok hne hrel
      rw [byTable_of_substitute_ok s loc spec file hm hok,
        aliasAnswer_of_bare s loc file (by simpa using hne) hrel]
      rfl
  · intro pre pre' post post' e hpre hpre' he
    obtain ⟨caps, hcaps⟩ := Option.isSome_iff_exists.1 he
    apply byTable_congr_firstMatch
    rw [Alias.firstMatch_append_of_no_match spec _ hpre, Alias.firstMatch_append_of_no_match spec _ hpre',
      Alias.firstMatch_cons_of_captures spec hcaps, Alias.firstMatch_cons_of_captures spec hcaps]

/-! ## Failures -/

/-- The alias strategy fails exactly when the substitution of the entry that decides does. -/
theorem byTable_result_eq_error_iff (table : List Alias.AnyEntry) (err : Error) :
    (s.byTable table loc spec file).result = .error err ↔
      ∃ e caps, Alias.firstMatch table spec = some (e, caps) ∧ e.substitute caps = .error err := by
  constructor
  · intro h
    cases hm : Alias.firstMatch table spec with
    | none => simp [byTable_of_firstMatch_none s loc spec file hm] at h
    | some m =>
      obtain ⟨e, caps⟩ := m
      refine ⟨e, caps, rfl, ?_⟩
      cases hs : e.substitute caps with
      | error err' => simpa [byTable_of_substitute_error s loc spec file hm hs] using h
      | ok target => simp [byTable_of_substitute_ok s loc spec file hm hs] at h
  · rintro ⟨e, caps, hm, herr⟩
    simp [byTable_of_substitute_error s loc spec file hm herr]

/-- A failing alias strategy gives no warning. -/
theorem byTable_warnings_of_error {table : List Alias.AnyEntry} {err : Error}
    (h : (s.byTable table loc spec file).result = .error err) :
    (s.byTable table loc spec file).warnings = [] := by
  obtain ⟨e, caps, hm, herr⟩ := (byTable_result_eq_error_iff s loc spec file table err).1 h
  simp [byTable_of_substitute_error s loc spec file hm herr]

/-- The root and third-party strategies never fail, so the chain fails only when the alias
strategy does, and then it is the alias strategy's outcome. -/
theorem resolveTable_result_eq_error_iff (table : List Alias.AnyEntry) (err : Error) :
    (s.resolveTable table loc spec file).result = .error err ↔
      (s.byTable table loc spec file).result = .error err := by
  simp [resolveTable, Outcome.orElse_result_eq_error_iff, Outcome.ofResolution]

theorem resolveTable_of_byTable_error {table : List Alias.AnyEntry} {err : Error}
    (h : (s.byTable table loc spec file).result = .error err) :
    s.resolveTable table loc spec file = s.byTable table loc spec file :=
  Outcome.orElse_of_error h _

/-! ## The order of the strategies -/

/-- The chain answers with the first answer among the strategies run on their own, the
third-party one counting as a miss when it keeps the specifier as written. -/
theorem resolveTable_result (table : List Alias.AnyEntry) :
    (s.resolveTable table loc spec file).result =
      Outcome.firstAnswer [(s.byTable table loc spec file).result,
        .ok (s.byRoot loc spec file).resolved, .ok ((s.byThirdParty spec file).filter (· != spec))] := by
  rw [resolveTable, Outcome.orElse_result, Outcome.orElse_result, Outcome.firstAnswer_cons_firstAnswer]
  rfl

/-- An answer for a target that names no specifier gives no warning either. -/
theorem aliasAnswer_of_resolved_none {target : String}
    (h : (s.aliasAnswer loc target file).resolved = none) :
    s.aliasAnswer loc target file = ⟨none, []⟩ := by
  cases hne : target.isEmpty
  · -- a target that is not empty is answered with a specifier
    cases hrel : Specifier.isRelative target
    · rw [aliasAnswer_of_bare s loc file hne hrel] at h
      cases h
    · rw [aliasAnswer_of_isRelative s loc file hne hrel] at h
      cases h
  · exact aliasAnswer_of_isEmpty s loc file hne

/-- An alias strategy that misses gives no warning. -/
theorem byTable_of_result_none {table : List Alias.AnyEntry}
    (h : (s.byTable table loc spec file).result = .ok none) :
    s.byTable table loc spec file = ⟨.ok none, []⟩ := by
  cases hm : Alias.firstMatch table spec with
  | none => exact byTable_of_firstMatch_none s loc spec file hm
  | some m =>
    obtain ⟨e, caps⟩ := m
    cases hs : e.substitute caps with
    | error err => simp [byTable_of_substitute_error s loc spec file hm hs] at h
    | ok target =>
      rw [byTable_of_substitute_ok s loc spec file hm hs] at h ⊢
      have hnone : (s.aliasAnswer loc target file).resolved = none := by
        simpa [Outcome.ofResolution] using h
      rw [aliasAnswer_of_resolved_none s loc file hnone]
      rfl

/-- The alias strategy reads neither the roots nor the third-party section. -/
@[simp] theorem byTable_update_root_thirdParty (table : List Alias.AnyEntry) (roots : List Path)
    (tp : Option ThirdParty) :
    { s with root := roots, thirdParty := tp }.byTable table loc spec file =
      s.byTable table loc spec file := rfl

end Settings

/-- Errors come only from the substitution of the entry that decides, and leave no trace.
For all settings and every alias table, the chain fails with `err` exactly when the first
entry whose matcher matches the specifier fails to substitute its captures with `err`, and
then no warning has been given. With the compiled table of a configuration the chain never
fails: for every specifier, file, process directory and locator it gives the specifier of
`Settings.resolve`. -/
theorem resolve_fails_only_by_substitution :
    (∀ (s : Settings) (table : List Alias.AnyEntry) (loc : Locator) (spec : String) (file : Path)
      (err : Error),
      (s.resolveTable table loc spec file).result = .error err ↔
        ∃ e caps, Alias.firstMatch table spec = some (e, caps) ∧ e.substitute caps = .error err) ∧
    (∀ (s : Settings) (table : List Alias.AnyEntry) (loc : Locator) (spec : String) (file : Path)
      (err : Error),
      (s.resolveTable table loc spec file).result = .error err →
        (s.resolveTable table loc spec file).warnings = []) ∧
    (∀ (fs : FileSystem) (cfg : Config) (loc : Locator) (spec : String) (f procCwd : Path),
      let file := Path.resolve procCwd f
      let s := cfg.settingsFor fs file procCwd
      (s.resolveTable (s.aliases.map Alias.Entry.toAny) loc spec file).result =
        .ok (s.resolve loc spec file).resolved) := by
  refine ⟨fun s table loc spec file err => ?_, fun s table loc spec file err h => ?_,
    fun fs cfg loc spec f procCwd => ?_⟩
  · rw [Settings.resolveTable_result_eq_error_iff, Settings.byTable_result_eq_error_iff]
  · have hb := (Settings.resolveTable_result_eq_error_iff s loc spec file table err).1 h
    rw [Settings.resolveTable_of_byTable_error s loc spec file hb]
    exact Settings.byTable_warnings_of_error s loc spec file hb
  · simp only [Settings.resolveTable_map_toAny, Outcome.ofResolution_result]

namespace Settings

/-- Priority and non-interference of the strategies, for every alias table. The chain
answers with the first answer among the alias strategy, the roots and the third-party
section run on their own, the last counting as a miss when it keeps the specifier as
written; a failure of the alias strategy is the chain's outcome, the later strategies not
run; and with the configuration's own table the chain is `Config.resolve`. So an answer of
the alias strategy is the chain's whatever the roots and the third-party section are; an
answer of the roots is kept whatever the third-party section is; and two tables on which
the alias strategy misses give the same outcome. -/
theorem resolveTable_strategy_order (spec : String) :
    (∀ (s : Settings) (table : List Alias.AnyEntry) (loc : Locator) (file : Path),
      (s.resolveTable table loc spec file).result =
        Outcome.firstAnswer [(s.byTable table loc spec file).result,
          .ok (s.byRoot loc spec file).resolved,
          .ok ((s.byThirdParty spec file).filter (· != spec))]) ∧
    (∀ (s : Settings) (table : List Alias.AnyEntry) (loc : Locator) (file : Path) (err : Error),
      (s.byTable table loc spec file).result = .error err →
        s.resolveTable table loc spec file = s.byTable table loc spec file) ∧
    (∀ (fs : FileSystem) (cfg : Config) (f procCwd : Path),
      let file := Path.resolve procCwd f
      let s := cfg.settingsFor fs file procCwd
      s.resolveTable (s.aliases.map Alias.Entry.toAny) (Locator.node fs) spec file =
        .ofResolution (Config.resolve fs cfg spec f procCwd)) ∧
    (∀ (s : Settings) (table : List Alias.AnyEntry) (loc : Locator) (file : Path)
      (roots : List Path) (tp : Option ThirdParty) (out : String),
      (s.byTable table loc spec file).result = .ok (some out) →
        s.resolveTable table loc spec file = s.byTable table loc spec file ∧
        { s with root := roots, thirdParty := tp }.resolveTable table loc spec file =
          s.byTable table loc spec file) ∧
    (∀ (s : Settings) (table : List Alias.AnyEntry) (loc : Locator) (file : Path)
      (tp : Option ThirdParty),
      (s.byRoot loc spec file).resolved.isSome →
        { s with thirdParty := tp }.resolveTable table loc spec file =
          s.resolveTable table loc spec file) ∧
    (∀ (s : Settings) (table table' : List Alias.AnyEntry) (loc : Locator) (file : Path),
      (s.byTable table loc spec file).result = .ok none →
      (s.byTable table' loc spec file).result = .ok none →
        s.resolveTable table' loc spec file = s.resolveTable table loc spec file) := by
  refine ⟨fun s table loc file => resolveTable_result s loc spec file table,
    fun s table loc file err h => resolveTable_of_byTable_error s loc spec file h,
    fun fs cfg f procCwd => resolveTable_map_toAny _ _ _ _, ?_, ?_, ?_⟩
  · intro s table loc file roots tp out h
    have h' : ({ s with root := roots, thirdParty := tp }.byTable table loc spec file).result =
        .ok (some out) := h
    exact ⟨Outcome.orElse_of_some h _, Outcome.orElse_of_some h' _⟩
  · intro s table loc file tp h
    -- both chains reach the roots only after the same alias strategy, and stop there
    have hroot : { s with thirdParty := tp }.byRoot loc spec file = s.byRoot loc spec file := rfl
    rw [resolveTable, resolveTable, hroot, Outcome.ofResolution_orElse, Outcome.ofResolution_orElse]
    simp only [h, if_true]
    rfl
  · intro s table table' loc file h h'
    rw [resolveTable, resolveTable, byTable_of_result_none s loc spec file h,
      byTable_of_result_none s loc spec file h']

end Settings

end ImportPath
