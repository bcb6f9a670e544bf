import ImportPath.Proofs.ThirdPartyBoundary
import ImportPath.Proofs.PackageName

/-!
# Extension rewrites act on the file name

A path is its directory part, up to and including its last `/`, followed by its file name.
Rewriting an extension keeps the directory part and rewrites the file name alone
(`applyFirst_dir_append`): dots in directory names are never taken for an extension. On the
file name the first rule whose source is a non-empty proper suffix of the name replaces that
suffix by its target (`applyFirst_name_of_first`); with no such rule the name is kept
(`applyFirst_name_of_none`). The rule's own test compares sizes in bytes, and for a suffix
that is the same as comparing the part before it with the empty text
(`fits_iff_endsProperly`). Hence a name equal to a rule's source is kept, and no rules change
nothing (`applyFirst_rewrites_file_name`).
-/

namespace ImportPath

namespace ExtensionRewrite

/-- A rule applies to a file name when its source is a non-empty proper suffix of the name:
the name is a non-empty stem followed by the source. -/
def EndsProperly (r : ExtensionRewrite) (name : String) : Prop :=
  r.source ≠ "" ∧ ∃ stem, stem ≠ "" ∧ name = stem ++ r.source

/-- The test of a rule is the proper-suffix test: a suffix is smaller in bytes than the name
exactly when something stands before it. -/
theorem fits_iff_endsProperly (r : ExtensionRewrite) (name : String) :
    r.fits name = true ↔ r.EndsProperly name := by
  simp only [fits, Bool.and_eq_true, Bool.not_eq_true', String.isEmpty_eq_false_iff,
    decide_eq_true_eq, List.isSuffixOf_iff_suffix, EndsProperly]
  constructor
  · rintro ⟨⟨hne, hsize⟩, u, hu⟩
    have hname : name = String.ofList u ++ r.source := by
      rw [← String.toList_inj]
      simpa using hu.symm
    refine ⟨hne, String.ofList u, fun hu0 => ?_, hname⟩
    rw [hu0, String.empty_append] at hname
    exact absurd (hname ▸ hsize) (Nat.lt_irrefl _)
  · rintro ⟨hne, stem, hstem, rfl⟩
    have hpos : 0 < stem.utf8ByteSize :=
      Nat.pos_of_ne_zero fun h0 => hstem (String.utf8ByteSize_eq_zero_iff.1 h0)
    refine ⟨⟨hne, ?_⟩, stem.toList, by simp⟩
    rw [String.utf8ByteSize_append]
    omega

variable {name : String}

/-- The first rule that applies to the name is the one found. -/
theorem find?_fits_first {before after : List ExtensionRewrite} {r : ExtensionRewrite}
    (hbefore : ∀ q ∈ before, ¬ q.EndsProperly name) (hr : r.EndsProperly name) :
    (before ++ r :: after).find? (·.fits name) = some r := by
  have hnone : before.find? (·.fits name) = none := by
    rw [List.find?_eq_none]
    intro q hq hfit
    exact hbefore q hq ((fits_iff_endsProperly q name).1 hfit)
  rw [List.find?_append, hnone, Option.none_or]
  exact List.find?_cons_of_pos ((fits_iff_endsProperly r name).2 hr)

theorem find?_fits_none {rules : List ExtensionRewrite} (h : ∀ q ∈ rules, ¬ q.EndsProperly name) :
    rules.find? (·.fits name) = none := by
  rw [List.find?_eq_none]
  intro q hq hfit
  exact h q hq ((fits_iff_endsProperly q name).1 hfit)

/-- On a file name, the rule found for the name rewrites it. -/
theorem applyFirst_name_of_find? {rules : List ExtensionRewrite} {r : ExtensionRewrite}
    (hname : '/' ∉ name.toList) (h : rules.find? (·.fits name) = some r) :
    applyFirst rules name =
      String.ofList (name.toList.take (name.length - r.source.length)) ++ r.target := by
  unfold applyFirst
  simp only [lastSegment_eq hname (.inl rfl), h]

theorem applyFirst_name_of_find?_none {rules : List ExtensionRewrite}
    (hname : '/' ∉ name.toList) (h : rules.find? (·.fits name) = none) :
    applyFirst rules name = name := by
  unfold applyFirst
  simp only [lastSegment_eq hname (.inl rfl), h]

/-- The first rule whose source properly ends the name replaces that source by its target. -/
theorem applyFirst_name_of_first {before after : List ExtensionRewrite} {r : ExtensionRewrite}
    (hname : '/' ∉ name.toList) (hbefore : ∀ q ∈ before, ¬ q.EndsProperly name) {stem : String}
    (hsrc : r.source ≠ "") (hstem : stem ≠ "") (hsplit : name = stem ++ r.source) :
    applyFirst (before ++ r :: after) name = stem ++ r.target := by
  rw [applyFirst_name_of_find? hname (find?_fits_first hbefore ⟨hsrc, stem, hstem, hsplit⟩)]
  -- the stem is what stands before the source
  have hlen : name.length - r.source.length = stem.toList.length := by
    rw [hsplit, String.length_append, String.length_toList]
    omega
  rw [hlen, hsplit, String.toList_append, List.take_left' rfl, String.ofList_toList]

/-- With no rule that properly ends the name, the name is kept. -/
theorem applyFirst_name_of_none {rules : List ExtensionRewrite} (hname : '/' ∉ name.toList)
    (h : ∀ q ∈ rules, ¬ q.EndsProperly name) : applyFirst rules name = name :=
  applyFirst_name_of_find?_none hname (find?_fits_none h)

/-- The directory part of a path, up to and including its last separator, is kept. -/
theorem applyFirst_dir_append (rules : List ExtensionRewrite) {dir : String}
    (hdir : dir = "" ∨ ∃ d, dir = d ++ "/") (name : String) :
    applyFirst rules (dir ++ name) = dir ++ applyFirst rules name := by
  rcases hdir with rfl | ⟨d, rfl⟩
  · rw [String.empty_append, String.empty_append]
  · exact applyFirst_slash rules d name

/-- Every path is a directory part, empty or ending in its last separator, and a file name
without a separator. -/
theorem exists_dir_name (p : String) :
    ∃ dir name, p = dir ++ name ∧ (dir = "" ∨ ∃ d, dir = d ++ "/") ∧ '/' ∉ name.toList := by
  by_cases hmem : '/' ∈ p.toList.reverse
  · -- the last separator is the first one of the reversed text
    obtain ⟨a, b, hrev, ha⟩ := Locate.exists_first_slash hmem
    refine ⟨String.ofList b.reverse ++ "/", String.ofList a.reverse, ?_, .inr ⟨_, rfl⟩,
      by simpa using ha⟩
    rw [← String.toList_inj, ← List.reverse_reverse p.toList, hrev]
    simp
  · exact ⟨"", p, by rw [String.empty_append], .inl rfl, by simpa using hmem⟩

/-- Extension rewriting touches only the file name, and the first rule wins: a path is its
directory part (up to its last `/`) and its file name; the rewrite keeps the directory part
and, on the name, replaces the source of the first rule whose source is a non-empty proper
suffix of the name by that rule's target, keeping the name when no rule is such. -/
theorem applyFirst_rewrites_file_name (rules : List ExtensionRewrite) (p : String) :
    ∃ dir name, p = dir ++ name ∧ (dir = "" ∨ ∃ d, dir = d ++ "/") ∧ '/' ∉ name.toList ∧
      (∀ before r after, rules = before ++ r :: after → (∀ q ∈ before, ¬ q.EndsProperly name) →
        ∀ stem, r.source ≠ "" → stem ≠ "" → name = stem ++ r.source →
          applyFirst rules p = dir ++ stem ++ r.target) ∧
      ((∀ q ∈ rules, ¬ q.EndsProperly name) → applyFirst rules p = p) := by
  obtain ⟨dir, name, rfl, hdir, hname⟩ := exists_dir_name p
  refine ⟨dir, name, rfl, hdir, hname, ?_, ?_⟩
  · rintro before r after rfl hbefore stem hsrc hstem hsplit
    rw [applyFirst_dir_append _ hdir, applyFirst_name_of_first hname hbefore hsrc hstem hsplit,
      String.append_assoc]
  · intro hnone
    rw [applyFirst_dir_append _ hdir, applyFirst_name_of_none hname hnone]

/-- A dot in a directory name is no extension, and of two rules that fit the first wins. -/
example : applyFirst [strip ".js"] "./lib.js/index" = "./lib.js/index" ∧
    applyFirst [strip ".d.ts", ⟨".ts", ".js"⟩] "./types.d.ts" = "./types" := by decide +kernel

end ExtensionRewrite

end ImportPath
