import ImportPath.Resolution

/-!
# The strategies of the chain

`Settings.resolve` tries the alias table, then the root directories, then the third-party
section, and answers with the first that gives a specifier. The three strategies signal a
miss differently: the alias strategy gives no specifier (also for an empty target), the
root strategy gives none when no root holds the file, and the third-party strategy keeps a
bare specifier as written, which the chain counts as no answer.

This module reads the alias strategy by the target of its table (`Settings.aliasTarget`),
one lemma for each kind of target, and records what each strategy cannot see: the alias
strategy never reads the roots or the third-party section, and the roots never read the
alias table or the third-party section. The order of the chain, over a table of any
entries whose substitutions may fail, is `resolveTable_strategy_order`.
-/

namespace ImportPath

namespace Settings

variable (s : Settings) (loc : Locator) (spec : String) (file : Path)

/-- The target the alias table gives a specifier: the substitution of the first entry
whose pattern matches it. -/
def aliasTarget : Option String :=
  s.aliases.findSome? fun e => (e.captures spec).map fun g => e.substitute g

/-! ## The alias strategy by its target -/

theorem byAlias_of_aliasTarget_none (h : s.aliasTarget spec = none) :
    s.byAlias loc spec file = ⟨none, []⟩ := by
  unfold aliasTarget at h
  simp [byAlias, h]

/-- An empty target gives nothing. -/
theorem byAlias_of_aliasTarget_empty (h : s.aliasTarget spec = some "") :
    s.byAlias loc spec file = ⟨none, []⟩ := by
  unfold aliasTarget at h
  simp [byAlias, h]

/-- A relative target is written relative to the file, without a warning. -/
theorem byAlias_of_aliasTarget_relative {target : String} (h : s.aliasTarget spec = some target)
    (hne : target ≠ "") (hrel : Specifier.isRelative target = true) :
    s.byAlias loc spec file = ⟨some (s.localTarget loc target file), []⟩ := by
  unfold aliasTarget at h
  simp [byAlias, h, hne, hrel]

/-- A bare target is kept; the warning is given when checks are on, the locator finds no
package of that name, and the log level is not `silent`. -/
theorem byAlias_of_aliasTarget_bare {target : String} (h : s.aliasTarget spec = some target)
    (hne : target ≠ "") (hrel : Specifier.isRelative target = false) :
    s.byAlias loc spec file =
      ⟨some target,
        if s.verifyExternalAliases = true ∧ loc target (s.baseDir file) s.extensions = none ∧
            s.loglevel ≠ .silent then [missingTargetWarning target file] else []⟩ := by
  unfold aliasTarget at h
  simp [byAlias, h, hne, hrel, and_assoc]

/-- The alias strategy misses exactly when no entry matches or the target is empty. -/
theorem byAlias_resolved_eq_none_iff :
    (s.byAlias loc spec file).resolved = none ↔
      s.aliasTarget spec = none ∨ s.aliasTarget spec = some "" := by
  cases h : s.aliasTarget spec with
  | none => simp [byAlias_of_aliasTarget_none s loc spec file h]
  | some target =>
    by_cases hne : target = ""
    · subst hne
      simp [byAlias_of_aliasTarget_empty s loc spec file h]
    · cases hrel : Specifier.isRelative target
      · simp [byAlias_of_aliasTarget_bare s loc spec file h hne hrel, hne]
      · simp [byAlias_of_aliasTarget_relative s loc spec file h hne hrel, hne]

/-- An alias strategy that gives no specifier gives no warning either. -/
theorem byAlias_of_resolved_none (h : (s.byAlias loc spec file).resolved = none) :
    s.byAlias loc spec file = ⟨none, []⟩ := by
  rcases (byAlias_resolved_eq_none_iff s loc spec file).1 h with h | h
  · exact byAlias_of_aliasTarget_none s loc spec file h
  · exact byAlias_of_aliasTarget_empty s loc spec file h

/-! ## What a strategy reads -/

@[simp] theorem byRoot_warnings : (s.byRoot loc spec file).warnings = [] := rfl

/-- The alias strategy reads neither the roots nor the third-party section. -/
@[simp] theorem byAlias_update_root_thirdParty (roots : List Path) (tp : Option ThirdParty) :
    { s with root := roots, thirdParty := tp }.byAlias loc spec file =
      s.byAlias loc spec file := rfl

/-- The root strategy reads neither the alias table nor the third-party section. -/
@[simp] theorem byRoot_update_aliases_thirdParty (aliases : List Alias.Entry)
    (tp : Option ThirdParty) :
    { s with aliases := aliases, thirdParty := tp }.byRoot loc spec file =
      s.byRoot loc spec file := rfl

/-- The third-party strategy reads neither the alias table nor the roots. -/
@[simp] theorem byThirdParty_update_aliases_root (aliases : List Alias.Entry)
    (roots : List Path) :
    { s with aliases := aliases, root := roots }.byThirdParty spec file =
      s.byThirdParty spec file := rfl

/-! ## The chain -/

/-- When the alias strategy names a specifier, the chain answers with its resolution. -/
theorem resolve_of_byAlias (h : (s.byAlias loc spec file).resolved.isSome) :
    s.resolve loc spec file = s.byAlias loc spec file := by
  simp [resolve, h]

/-- When the alias strategy misses, the chain is the rest of it. -/
theorem resolve_of_byAlias_none (h : (s.byAlias loc spec file).resolved = none) :
    s.resolve loc spec file =
      if (s.byRoot loc spec file).resolved.isSome then s.byRoot loc spec file
      else ⟨(s.byThirdParty spec file).filter (· != spec), []⟩ := by
  simp [resolve, h]

end Settings

end ImportPath
