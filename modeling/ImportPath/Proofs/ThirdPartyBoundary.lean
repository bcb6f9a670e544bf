import ImportPath.Proofs.Relocation
import ImportPath.Proofs.OverrideLayers

/-!
# The third-party boundary

The third-party strategy keeps a bare specifier as it is. A relative specifier is remapped
only inside the boundary: when a third-party section is set, its module marker is not empty,
and the marker occurs in the path of the current file. Then the last `/`-separated segment
of the specifier is matched against the section's entries, and the first entry that matches
gives its literal path (`byThirdParty_eq_some_iff`).

In the chain of strategies a specifier kept as it is counts as no answer, so a bare specifier
that neither the alias table nor the roots rewrite is left alone
(`resolve_of_bare_miss`). The third-party configuration is read last and only inside the
boundary: two configurations that differ only in their third-party sections resolve alike
unless the specifier is relative, both earlier strategies miss, and one of the sections that
apply covers the file (`thirdParty_remaps_inside_boundary`).
-/

namespace ImportPath

/-! ## The last segment of a specifier -/

namespace ExtensionRewrite

/-- The segment after the last separator is the last segment. -/
theorem lastSegment_of_split {pre base : List Char} (hbase : '/' ∉ base) :
    Specifier.lastSegment (pre ++ '/' :: base) = base := by
  rw [lastSegment_append_slash, lastSegment_of_not_mem hbase]

/-- The last segment of a text written as a segment, or as a text, `/` and a segment. -/
theorem lastSegment_eq {spec base : String} (hbase : '/' ∉ base.toList)
    (hsplit : spec = base ∨ ∃ dir, spec = dir ++ "/" ++ base) :
    String.ofList (Specifier.lastSegment spec.toList) = base := by
  rcases hsplit with rfl | ⟨dir, rfl⟩
  · rw [lastSegment_of_not_mem hbase, String.ofList_toList]
  · have h : (dir ++ "/" ++ base).toList = dir.toList ++ '/' :: base.toList := by simp
    rw [h, lastSegment_of_split hbase, String.ofList_toList]

end ExtensionRewrite

/-! ## The strategy on its own -/

namespace Settings

variable (s : Settings) (spec : String) (file : Path)

/-- A bare specifier is kept. -/
theorem byThirdParty_of_bare (h : Specifier.isRelative spec = false) :
    s.byThirdParty spec file = some spec := by
  simp [byThirdParty, h]

/-- Inside the boundary, a relative specifier is remapped by the section's entries. -/
theorem byThirdParty_of_covers (h : Specifier.isRelative spec = true) {tp : ThirdParty}
    (htp : s.thirdParty = some tp) (hmodule : tp.module ≠ "")
    (hin : tp.module.toList <:+: file.text.toList) :
    s.byThirdParty spec file =
      (tp.aliases.find? fun e =>
        (e.captures (String.ofList (Specifier.lastSegment spec.toList))).isSome).bind (·.literal) := by
  have hmod : tp.module.isEmpty = false := by simpa using hmodule
  have hinf : Specifier.hasInfix tp.module.toList file.text.toList = true :=
    (Specifier.hasInfix_iff _ _).2 hin
  simp [byThirdParty, h, htp, hmod, hinf]

/-- Outside the boundary, a relative specifier gets nothing. -/
theorem byThirdParty_of_not_covers (h : Specifier.isRelative spec = true)
    (hout : ¬∃ tp, s.thirdParty = some tp ∧ tp.module ≠ "" ∧
      tp.module.toList <:+: file.text.toList) :
    s.byThirdParty spec file = none := by
  unfold byThirdParty
  rw [h]
  cases htp : s.thirdParty with
  | none => rfl
  | some tp =>
    -- the marker is empty, or it does not occur in the file's path
    by_cases hmodule : tp.module = ""
    · simp [hmodule]
    · have hinf : Specifier.hasInfix tp.module.toList file.text.toList = false :=
        Bool.eq_false_iff.2 fun hinf =>
          hout ⟨tp, htp, hmodule, (Specifier.hasInfix_iff _ _).1 hinf⟩
      simp [hinf]

/-- A relative specifier is remapped to `l` exactly when a section covers the file and the
first of its entries that matches the last segment carries the literal `l`. -/
theorem byThirdParty_eq_some_iff (h : Specifier.isRelative spec = true) {base : String}
    (hbase : '/' ∉ base.toList) (hsplit : spec = base ∨ ∃ dir, spec = dir ++ "/" ++ base)
    (l : String) :
    s.byThirdParty spec file = some l ↔
      ∃ tp, s.thirdParty = some tp ∧ tp.module ≠ "" ∧ tp.module.toList <:+: file.text.toList ∧
        ∃ front e back, tp.aliases = front ++ e :: back ∧
          (∀ e' ∈ front, e'.captures base = none) ∧ (e.captures base).isSome ∧
          e.literal = some l := by
  by_cases hcov : ∃ tp, s.thirdParty = some tp ∧ tp.module ≠ "" ∧
      tp.module.toList <:+: file.text.toList
  · obtain ⟨tp, htp, hmodule, hin⟩ := hcov
    rw [byThirdParty_of_covers s spec file h htp hmodule hin,
      ExtensionRewrite.lastSegment_eq hbase hsplit, Option.bind_eq_some_iff]
    constructor
    · rintro ⟨e, hfind, hlit⟩
      obtain ⟨hmatch, front, back, hsplit', hfront⟩ := List.find?_eq_some_iff_append.1 hfind
      exact ⟨tp, htp, hmodule, hin, front, e, back, hsplit', fun e' he' => by
        simpa using hfront e' he', hmatch, hlit⟩
    · rintro ⟨tp', htp', -, -, front, e, back, hsplit', hfront, hmatch, hlit⟩
      obtain rfl : tp = tp' := Option.some_inj.1 (htp.symm.trans htp')
      refine ⟨e, List.find?_eq_some_iff_append.2 ⟨hmatch, front, back, hsplit', ?_⟩, hlit⟩
      intro e' he'
      simp [hfront e' he']
  · -- outside the boundary there is no answer, and no section covers the file
    rw [byThirdParty_of_not_covers s spec file h hcov]
    simp only [reduceCtorEq, false_iff]
    rintro ⟨tp, htp, hmodule, hin, -⟩
    exact hcov ⟨tp, htp, hmodule, hin⟩

/-! ## The strategy in the chain -/

variable (loc : Locator)

/-- A bare specifier that neither the alias table nor the roots rewrite is left alone. -/
theorem resolve_of_bare_miss (h : Specifier.isRelative spec = false)
    (ha : (s.byAlias loc spec file).resolved = none)
    (hr : (s.byRoot loc spec file).resolved = none) :
    s.resolve loc spec file = ⟨none, []⟩ := by
  rw [resolve_of_byAlias_none s loc spec file ha, hr, byThirdParty_of_bare s spec file h]
  simp

/-- The third-party section only matters for a relative specifier that both earlier strategies
miss, written in a file that one of the two sections covers. -/
theorem resolve_update_thirdParty (tp' : Option ThirdParty)
    (hne : { s with thirdParty := tp' }.resolve loc spec file ≠ s.resolve loc spec file) :
    Specifier.isRelative spec = true ∧ (s.byAlias loc spec file).resolved = none ∧
      (s.byRoot loc spec file).resolved = none ∧
      ∃ tp, (s.thirdParty = some tp ∨ tp' = some tp) ∧ tp.module ≠ "" ∧
        tp.module.toList <:+: file.text.toList := by
  -- the strategies before the third-party one do not read its section
  have ha : (s.byAlias loc spec file).resolved = none := by
    by_contra ha
    have hsome : (s.byAlias loc spec file).resolved.isSome := Option.ne_none_iff_isSome.1 ha
    exact hne (by
      rw [resolve_of_byAlias { s with thirdParty := tp' } loc spec file hsome,
        resolve_of_byAlias s loc spec file hsome]
      rfl)
  have hr : (s.byRoot loc spec file).resolved = none := by
    by_contra hr
    have hsome : (s.byRoot loc spec file).resolved.isSome := Option.ne_none_iff_isSome.1 hr
    exact hne (by
      rw [resolve_of_byAlias_none { s with thirdParty := tp' } loc spec file ha,
        resolve_of_byAlias_none s loc spec file ha]
      simp only [show { s with thirdParty := tp' }.byRoot loc spec file = s.byRoot loc spec file
        from rfl, hsome, if_true])
  cases hrel : Specifier.isRelative spec with
  | false =>
    exact absurd ((resolve_of_bare_miss { s with thirdParty := tp' } spec file loc hrel ha hr).trans
      (resolve_of_bare_miss s spec file loc hrel ha hr).symm) hne
  | true =>
    refine ⟨rfl, ha, hr, ?_⟩
    by_contra hcov
    -- neither section covers the file, so both chains end with no answer
    have hnone : ∀ t : Settings, (t.thirdParty = s.thirdParty ∨ t.thirdParty = tp') →
        (t.byAlias loc spec file).resolved = none → (t.byRoot loc spec file).resolved = none →
        t.resolve loc spec file = ⟨none, []⟩ := by
      intro t hwhich hta htr
      have hout : ¬∃ tp, t.thirdParty = some tp ∧ tp.module ≠ "" ∧
          tp.module.toList <:+: file.text.toList := by
        rintro ⟨tp, htp, hmodule, hin⟩
        refine hcov ⟨tp, ?_, hmodule, hin⟩
        rcases hwhich with h | h
        · exact .inl (h ▸ htp)
        · exact .inr (h ▸ htp)
      rw [resolve_of_byAlias_none t loc spec file hta, htr,
        byThirdParty_of_not_covers t spec file hrel hout]
      rfl
    exact hne ((hnone { s with thirdParty := tp' } (.inr rfl) ha hr).trans
      (hnone s (.inl rfl) ha hr).symm)

end Settings

/-! ## Configurations that differ in their third-party sections -/

/-- A layer without its third-party section. -/
def Layer.sansThirdParty (l : Layer) : Layer := { l with thirdParty := none }

/-- A configuration without a third-party section in any layer. -/
def Config.sansThirdParty (c : Config) : Config :=
  ⟨c.base.sansThirdParty, c.overrides.map fun o => ⟨o.scope, o.layer.sansThirdParty⟩⟩

namespace Config

variable (fs : FileSystem) (cfg : Config) (file procCwd : Path)

/-- Without third-party sections the same override applies, and the settings of a file are
the same but for the section. -/
theorem settingsFor_sansThirdParty :
    cfg.sansThirdParty.settingsFor fs file procCwd =
      { cfg.settingsFor fs file procCwd with thirdParty := none } := by
  have hfind : cfg.sansThirdParty.overrides.find? (·.scope.contains file procCwd) =
      (cfg.overrides.find? (·.scope.contains file procCwd)).map
        fun o => (⟨o.scope, o.layer.sansThirdParty⟩ : Override) := by
    simp only [sansThirdParty, List.find?_map]
    rfl
  simp only [settingsFor, hfind]
  cases cfg.overrides.find? (·.scope.contains file procCwd) <;> rfl

/-- Two configurations that differ only in their third-party sections give a file the same
settings but for the section. -/
theorem settingsFor_of_sansThirdParty {cfg' : Config}
    (h : cfg.sansThirdParty = cfg'.sansThirdParty) :
    cfg'.settingsFor fs file procCwd =
      { cfg.settingsFor fs file procCwd with
          thirdParty := (cfg'.settingsFor fs file procCwd).thirdParty } := by
  have h' : { cfg.settingsFor fs file procCwd with thirdParty := none } =
      { cfg'.settingsFor fs file procCwd with thirdParty := none } := by
    rw [← settingsFor_sansThirdParty, h, settingsFor_sansThirdParty]
  -- the two agree on every setting but the section, which the update puts back
  simpa using (congrArg (fun t : Settings =>
    { t with thirdParty := (cfg'.settingsFor fs file procCwd).thirdParty }) h').symm

end Config

/-- Third-party remapping. On its own the strategy keeps a bare specifier; a relative one is
remapped exactly when a section with a non-empty module marker is set, the marker occurs in
the path of the current file, and the first entry that matches the last segment of the
specifier carries the literal path. In the chain, a bare specifier that the alias table and the
roots miss is left alone, and two configurations that differ only in their third-party
sections resolve a specifier alike unless it is relative, both earlier strategies miss, and a
section that applies covers the file. -/
theorem thirdParty_remaps_inside_boundary :
    (∀ (s : Settings) (spec : String) (file : Path), Specifier.isRelative spec = false →
      s.byThirdParty spec file = some spec) ∧
    (∀ (s : Settings) (spec : String) (file : Path) (base l : String),
      Specifier.isRelative spec = true → '/' ∉ base.toList →
      (spec = base ∨ ∃ dir, spec = dir ++ "/" ++ base) →
      (s.byThirdParty spec file = some l ↔
        ∃ tp, s.thirdParty = some tp ∧ tp.module ≠ "" ∧ tp.module.toList <:+: file.text.toList ∧
          ∃ front e back, tp.aliases = front ++ e :: back ∧
            (∀ e' ∈ front, e'.captures base = none) ∧ (e.captures base).isSome ∧
            e.literal = some l)) ∧
    (∀ (s : Settings) (loc : Locator) (spec : String) (file : Path),
      Specifier.isRelative spec = false → (s.byAlias loc spec file).resolved = none →
      (s.byRoot loc spec file).resolved = none → s.resolve loc spec file = ⟨none, []⟩) ∧
    (∀ (fs : FileSystem) (cfg cfg' : Config) (spec : String) (f procCwd : Path),
      cfg.sansThirdParty = cfg'.sansThirdParty →
      Config.resolve fs cfg spec f procCwd ≠ Config.resolve fs cfg' spec f procCwd →
      let file := Path.resolve procCwd f
      let s := cfg.settingsFor fs file procCwd
      Specifier.isRelative spec = true ∧ (s.byAlias (Locator.node fs) spec file).resolved = none ∧
        (s.byRoot (Locator.node fs) spec file).resolved = none ∧
        ∃ tp, (s.thirdParty = some tp ∨ (cfg'.settingsFor fs file procCwd).thirdParty = some tp) ∧
          tp.module ≠ "" ∧ tp.module.toList <:+: file.text.toList) := by
  refine ⟨Settings.byThirdParty_of_bare, fun s spec file base l h hbase hsplit =>
    Settings.byThirdParty_eq_some_iff s spec file h hbase hsplit l,
    fun s loc spec file => Settings.resolve_of_bare_miss s spec file loc, ?_⟩
  intro fs cfg cfg' spec f procCwd hcfg hne
  apply Settings.resolve_update_thirdParty
  rw [← Config.settingsFor_of_sansThirdParty fs cfg _ procCwd hcfg]
  exact fun h => hne h.symm

end ImportPath
