import ImportPath.Proofs.RelativePath

/-!
# Normalization is a normal form

Normalizing reads the components of a path into a `Lexical` state and writes the state
back. This module shows that the states it can reach are exactly the normal ones: names,
after a run of `..` that only a relative path may have (`Lexical.Normal`). Every component
of a path keeps a state normal (`Lexical.Normal.step`), and reading the text of a normal
state gives the state back (`Lexical.ofComponents_components_toPath`). From these:

* a normalized path has no `.` component and no `..` after the root or a name
  (`Path.normalize_isNormalForm`);
* normalizing twice is normalizing once (`Path.normalize_normalize`);
* a path may be normalized before something is joined to it (`Path.normalize_join_normalize`),
  because joining a relative path only reads its components after those of the base
  (`Path.ofComponents_join`);
* resolving against an absolute base twice is resolving once.

The main statement is `Path.normalize_normal_form`.
-/

namespace ImportPath

namespace Path

/-! ## The head of a path text

A path text is read as its head (`/`, a leading `.`, or nothing) and the components of the
rest. The head is decided by the first one or two characters, so text added after a
non-empty path and a separator leaves it as it is. -/

theorem isAbsolute_iff (s : String) :
    (Path.mk s).isAbsolute = true ↔ s.toList.head? = some '/' := by
  simp only [isAbsolute, String.startsWith_string_iff]
  cases s.toList with
  | nil => simp
  | cons c cs => simp [List.cons_prefix_cons, eq_comm]

theorem leadsWithCurrent_iff (s : String) : (Path.mk s).leadsWithCurrent = true ↔
    s.toList = ['.'] ∨ ∃ r, s.toList = '.' :: '/' :: r := by
  have hdot : s = "." ↔ s.toList = ['.'] := by
    rw [← String.toList_inj]
    rfl
  have hds : ("./" : String).toList = ['.', '/'] := rfl
  simp only [leadsWithCurrent, Bool.and_eq_true, Bool.or_eq_true, beq_iff_eq,
    String.startsWith_string_iff, hdot, hds, Bool.not_eq_true', ← Bool.not_eq_true, isAbsolute_iff]
  generalize s.toList = t
  rcases t with _ | ⟨c, _ | ⟨d, ds⟩⟩
  · simp
  · by_cases hc : c = '.' <;> simp [hc]
  · simp only [List.cons_prefix_cons, List.cons.injEq, List.nil_prefix, and_true, List.head?_cons,
      Option.some.injEq, reduceCtorEq, and_false, false_or]
    grind

/-- Text after a non-empty path keeps it absolute or relative. -/
theorem isAbsolute_append_of_ne {a : String} (ha : a ≠ "") (t : String) :
    (Path.mk (a ++ t)).isAbsolute = (Path.mk a).isAbsolute := by
  obtain ⟨c, cs, hc⟩ := List.exists_cons_of_ne_nil (by simpa using ha : a.toList ≠ [])
  rw [Bool.eq_iff_iff, isAbsolute_iff, isAbsolute_iff, String.toList_append, hc]
  rfl

/-- A separator and more text after a non-empty path keep its leading `.` or its lack. -/
theorem leadsWithCurrent_append_slash {a : String} (ha : a ≠ "") (b : String) :
    (Path.mk (a ++ "/" ++ b)).leadsWithCurrent = (Path.mk a).leadsWithCurrent := by
  obtain ⟨c, cs, hc⟩ := List.exists_cons_of_ne_nil (by simpa using ha : a.toList ≠ [])
  have htext : (a ++ "/" ++ b).toList = c :: (cs ++ '/' :: b.toList) := by simp [hc]
  rw [Bool.eq_iff_iff, leadsWithCurrent_iff, leadsWithCurrent_iff, htext, hc]
  rcases cs with _ | ⟨d, ds⟩ <;> simp

theorem headComponents_append_slash {a : String} (ha : a ≠ "") (b : String) :
    (Path.mk (a ++ "/" ++ b)).headComponents = (Path.mk a).headComponents := by
  simp only [headComponents, String.append_assoc, isAbsolute_append_of_ne ha,
    ← leadsWithCurrent_append_slash ha b]

/-- The head text starts the text. -/
theorem headText_starts_text (p : Path) : p.headText.toList <+: p.text.toList := by
  unfold headText
  split
  · rename_i h
    simpa [isAbsolute, String.startsWith_string_iff] using h
  · split
    · rename_i h
      rcases (leadsWithCurrent_iff p.text).1 h with h | ⟨r, h⟩ <;> simp [h]
    · simp

theorem text_eq_headText_append_body (p : Path) : p.text = p.headText ++ p.body := by
  rw [← String.toList_inj, String.toList_append, body, String.toList_ofList]
  exact (List.prefix_iff_eq_append.1 (headText_starts_text p)).symm

theorem textComponents_root_append (s : String) : textComponents ("/" ++ s) = textComponents s := by
  have h := textComponents_slash_append "" s
  rwa [String.empty_append, textComponents_empty, List.nil_append] at h

/-- After a leading `.` the body is empty or starts with a separator. -/
theorem body_of_leadsWithCurrent {p : Path} (hlead : p.leadsWithCurrent = true) :
    p.body = "" ∨ ∃ r, p.body = "/" ++ r := by
  have habs : p.isAbsolute = false := by
    simp only [leadsWithCurrent, Bool.and_eq_true, Bool.not_eq_true'] at hlead
    exact hlead.1
  have htext : p.text = "." ++ p.body := by
    simpa [headText, habs, hlead] using text_eq_headText_append_body p
  rcases (leadsWithCurrent_iff p.text).1 hlead with h | ⟨r, h⟩
  · left
    rw [← String.toList_inj]
    simpa [htext] using h
  · right
    refine ⟨String.ofList r, ?_⟩
    rw [← String.toList_inj]
    simpa [htext] using h

/-- The head text stands for no component of its own after a separator. -/
theorem textComponents_text (p : Path) : textComponents p.text = textComponents p.body := by
  have htext := text_eq_headText_append_body p
  unfold headText at htext
  split at htext
  · rw [htext, textComponents_root_append]
  · split at htext
    · rename_i hlead
      rcases body_of_leadsWithCurrent hlead with hb | ⟨r, hb⟩
      · rw [htext, hb, String.append_empty, textComponents_current, textComponents_empty]
      · rw [htext, hb, ← String.append_assoc, textComponents_slash_append, textComponents_current,
          textComponents_root_append, List.nil_append]
    · rw [htext, String.empty_append]

/-- A path reads as its head and the components of its whole text. -/
theorem components_eq (p : Path) : p.components = p.headComponents ++ textComponents p.text := by
  rw [components, parts_filterMap, textComponents_text p]

theorem components_append_slash {a : String} (ha : a ≠ "") (b : String) :
    (Path.mk (a ++ "/" ++ b)).components = (Path.mk a).components ++ textComponents b := by
  rw [components_eq, components_eq, headComponents_append_slash ha, List.append_assoc]
  simp only [textComponents_slash_append]

theorem components_empty : (Path.mk "").components = [] := by
  rw [components_eq, textComponents_empty]
  rfl

/-- Names, and `..`, joined by separators start with no head. -/
theorem headComponents_intercalate {xs : List String}
    (hxs : ∀ x ∈ xs, x ≠ "" ∧ x ≠ "." ∧ '/' ∉ x.toList) :
    (Path.mk ("/".intercalate xs)).headComponents = [] := by
  cases xs with
  | nil => rfl
  | cons x rest =>
    obtain ⟨hne, hdot, hslash⟩ := hxs x (by simp)
    obtain ⟨c, cs, hc⟩ := List.exists_cons_of_ne_nil (by simpa using hne : x.toList ≠ [])
    -- the text starts with the characters of `x`
    obtain ⟨tail, htext⟩ : ∃ tail : List Char,
        ("/".intercalate (x :: rest)).toList = c :: (cs ++ tail) := by
      cases rest with
      | nil => exact ⟨[], by simp [hc]⟩
      | cons y ys => exact ⟨'/' :: ("/".intercalate (y :: ys)).toList,
          by simp [String.intercalate_cons_cons, hc]⟩
    have hcs : '/' ∉ c :: cs := hc ▸ hslash
    have hx : x.toList ≠ ['.'] := fun h => hdot (String.toList_inj.1 h)
    have habs : (Path.mk ("/".intercalate (x :: rest))).isAbsolute = false := by
      rw [← Bool.not_eq_true, isAbsolute_iff, htext]
      intro h
      simp only [List.head?_cons, Option.some.injEq] at h
      exact hcs (h ▸ List.mem_cons_self)
    have hlead : (Path.mk ("/".intercalate (x :: rest))).leadsWithCurrent = false := by
      rw [← Bool.not_eq_true, leadsWithCurrent_iff, htext]
      rintro (h | ⟨r, h⟩)
      · simp only [List.cons.injEq, List.append_eq_nil_iff] at h
        exact hx (by rw [hc, h.1, h.2.1])
      · simp only [List.cons.injEq] at h
        obtain ⟨rfl, h⟩ := h
        rcases cs with _ | ⟨d, ds⟩
        · exact hx (by rw [hc])
        · simp only [List.cons_append, List.cons.injEq] at h
          exact hcs (by simp [h.1])
    simp [headComponents, habs, hlead]

end Path

/-! ## Joining reads the base, then the joined path

A relative path joined to a base is read as the base's components followed by its own, so
normalizing the join continues the reading of the base. A leading `.` of the joined path
stands for nothing, and an empty base for no component. -/

namespace Path

/-- Joining a relative path to a non-empty base reads the base, then the joined text. -/
theorem components_join_of_ne {p q : Path} (hq : q.isAbsolute = false) (hp : p.text ≠ "") :
    (p.join q).components = p.components ++ textComponents q.text := by
  obtain ⟨t⟩ := p
  unfold join
  rw [if_neg (by simp [hq])]
  split
  · -- the base already ends with its separator
    rename_i hend
    have hlast : t.toList.getLast? = some '/' := by simpa [String.isEmpty_iff, hp] using hend
    obtain ⟨ys, hys⟩ := List.getLast?_eq_some_iff.1 hlast
    have ht : t = String.ofList ys ++ "/" := by
      rw [← String.toList_inj]
      simpa using hys
    subst ht
    by_cases hys0 : String.ofList ys = ""
    · have hroot : (Path.mk "/").components = [.root] := by
        simpa [textComponents_empty] using components_root_append ""
      rw [hys0, String.empty_append, components_root_append, hroot]
      rfl
    · have hbase := components_append_slash hys0 ""
      rw [textComponents_empty, List.append_nil, String.append_empty] at hbase
      rw [components_append_slash hys0, hbase]
  · exact components_append_slash hp q.text

/-- A leading `.` of a relative path stands for nothing when it is read. -/
theorem foldl_components_of_not_absolute {q : Path} (hq : q.isAbsolute = false) (l : Lexical) :
    q.components.foldl Lexical.step l = (textComponents q.text).foldl Lexical.step l := by
  rw [components_eq, List.foldl_append]
  unfold headComponents
  rw [if_neg (by simp [hq])]
  split <;> rfl

open Lexical in
/-- Normalizing a join of a relative path goes on from the reading of the base. -/
theorem ofComponents_join (p : Path) {q : Path} (hq : q.isAbsolute = false) :
    ofComponents (p.join q).components =
      (textComponents q.text).foldl step (ofComponents p.components) := by
  by_cases hp : p.text = ""
  · obtain ⟨t⟩ := p
    simp only at hp
    subst hp
    have hjoin : (Path.mk "").join q = q := by
      simp [join, hq]
    rw [hjoin, components_empty]
    exact foldl_components_of_not_absolute hq start
  · rw [ofComponents, components_join_of_ne hq hp, List.foldl_append]
    rfl

end Path

/-! ## The states of a reading

A reading state is normal when its names are proper names after a run of `..`, a run that
an absolute state never has. Every component a path can have keeps a state normal, and the
text of a normal state reads back as the state. -/

namespace Lexical

/-- Names after a run of `..`, with no `..` at the root. -/
def Normal (l : Lexical) : Prop :=
  ∃ (k : Nat) (ns : List String), (∀ n ∈ ns, IsName n) ∧ (l.absolute = true → k = 0) ∧
    l.namesRev = ns.reverse ++ List.replicate k ".."

theorem start_normal : start.Normal := ⟨0, [], by simp, fun _ => rfl, rfl⟩

/-- Reading one component, whose name if any is a proper name, keeps a state normal. -/
theorem Normal.step {l : Lexical} (hl : l.Normal) {c : Component}
    (hc : ∀ n, c = .name n → IsName n) : (l.step c).Normal := by
  obtain ⟨absolute, namesRev⟩ := l
  obtain ⟨k, ns, hns, habs, hnames⟩ := hl
  simp only at habs hnames
  subst hnames
  cases c with
  | root => exact ⟨0, [], by simp, fun _ => rfl, rfl⟩
  | current => exact ⟨k, ns, hns, habs, rfl⟩
  | parent =>
    rcases List.eq_nil_or_concat ns with rfl | ⟨ns', n, rfl⟩
    · -- no name to remove: the root stays, and a relative state gains a `..`
      cases k with
      | zero =>
        cases absolute
        · exact ⟨1, [], by simp, by simp [Lexical.step], by simp [Lexical.step]⟩
        · exact ⟨0, [], by simp, fun _ => rfl, rfl⟩
      | succ k =>
        have hrel : absolute = false := by
          cases absolute
          · rfl
          · exact absurd (habs rfl) (Nat.succ_ne_zero k)
        subst hrel
        refine ⟨k + 2, [], by simp, by simp [Lexical.step, List.replicate_succ], ?_⟩
        simp [Lexical.step, List.replicate_succ]
    · -- the last name goes
      have hn : (n == "..") = false := by
        simpa using (hns n (by simp)).ne_parent
      refine ⟨k, ns', fun x hx => hns x (by simp [hx]), ?_, ?_⟩
      · simpa [Lexical.step, hn] using habs
      · simp [Lexical.step, hn]
  | name n =>
    refine ⟨k, ns ++ [n], ?_, habs, by simp [Lexical.step]⟩
    intro x hx
    rcases List.mem_append.1 hx with hx | hx
    · exact hns x hx
    · rw [List.mem_singleton.1 hx]
      exact hc n rfl

theorem Normal.foldl {l : Lexical} (hl : l.Normal) {cs : List Component}
    (hcs : ∀ c ∈ cs, ∀ n, c = .name n → IsName n) : (cs.foldl Lexical.step l).Normal := by
  induction cs generalizing l with
  | nil => exact hl
  | cons c cs ih =>
    rw [List.foldl_cons]
    exact ih (hl.step (hcs c (by simp))) (fun x hx => hcs x (by simp [hx]))

end Lexical

namespace Path

/-- Every name among the components of a path is a proper name. -/
theorem isName_of_mem_components {p : Path} {c : Component} (hc : c ∈ p.components) {n : String}
    (hn : c = .name n) : IsName n := by
  rw [components_eq] at hc
  rcases List.mem_append.1 hc with hc | hc
  · unfold headComponents at hc
    subst hn
    split at hc
    · simp at hc
    · split at hc <;> simp at hc
  · rcases mem_textComponents hc with rfl | ⟨m, rfl, hm⟩
    · cases hn
    · cases hn
      exact hm

theorem ofComponents_normal (p : Path) : (Lexical.ofComponents p.components).Normal :=
  Lexical.Normal.foldl Lexical.start_normal fun _ hc _ hn => isName_of_mem_components hc hn

end Path

/-! ## Writing a normal state and reading it again -/

namespace Lexical

/-- From the start, reading `k` parents gives a run of `k` `..`. -/
theorem foldl_step_start_parents (k : Nat) :
    (List.replicate k Component.parent).foldl step start = ⟨false, List.replicate k ".."⟩ := by
  induction k with
  | zero => rfl
  | succ k ih =>
    rw [List.replicate_succ', List.foldl_append, ih, List.foldl_cons, List.foldl_nil]
    cases k with
    | zero => rfl
    | succ k => simp [step, List.replicate_succ]

/-- A relative normal state is written as its run of `..` and its names. -/
theorem components_toPath_relative {k : Nat} {ns : List String} (hns : ∀ n ∈ ns, IsName n) :
    (Lexical.mk false (ns.reverse ++ List.replicate k "..")).toPath.components =
      List.replicate k .parent ++ ns.map .name := by
  have hparts : ∀ x ∈ List.replicate k ".." ++ ns, x ≠ "" ∧ x ≠ "." ∧ '/' ∉ x.toList := by
    intro x hx
    rcases List.mem_append.1 hx with hx | hx
    · rw [List.eq_of_mem_replicate hx]
      decide
    · exact ⟨(hns x hx).ne_empty, (hns x hx).ne_current, (hns x hx).no_slash⟩
  have htext : (Lexical.mk false (ns.reverse ++ List.replicate k "..")).toPath =
      ⟨"/".intercalate (List.replicate k ".." ++ ns)⟩ := by
    simp [toPath]
  rw [htext, Path.components_eq, Path.headComponents_intercalate hparts, List.nil_append,
    textComponents_intercalate_append, textComponents_replicate_parent,
    textComponents_intercalate_names hns]

/-- Reading the text of a normal state gives the state back. -/
theorem ofComponents_components_toPath {l : Lexical} (hl : l.Normal) :
    ofComponents l.toPath.components = l := by
  obtain ⟨absolute, namesRev⟩ := l
  obtain ⟨k, ns, hns, habs, hnames⟩ := hl
  simp only at habs hnames
  subst hnames
  cases absolute with
  | true =>
    obtain rfl := habs rfl
    rw [List.replicate_zero, List.append_nil, toPath_root, components_ofNames hns, ofComponents,
      List.foldl_cons, foldl_step_names]
    simp [step]
  | false =>
    rw [components_toPath_relative hns, ofComponents, List.foldl_append, foldl_step_start_parents,
      foldl_step_names]

end Lexical

/-! ## The normal form -/

namespace Path

/-- A path in normal form, read as components: the root followed by names, or a run of
`..` followed by names. It has no `.` component and no `..` after the root or a name. -/
def IsNormalForm (p : Path) : Prop :=
  ∃ (k : Nat) (ns : List String), (∀ n ∈ ns, IsName n) ∧
    ((p.isAbsolute = true ∧ p.components = .root :: ns.map .name) ∨
      (p.isAbsolute = false ∧ p.components = List.replicate k .parent ++ ns.map .name))

/-- A path read without the root first is relative. -/
theorem isAbsolute_eq_false_of_components {p : Path} {k : Nat} {ns : List String}
    (h : p.components = List.replicate k .parent ++ ns.map .name) : p.isAbsolute = false := by
  rw [← Bool.not_eq_true]
  intro habs
  rw [components_of_isAbsolute habs] at h
  cases k <;> cases ns <;> simp [List.replicate_succ] at h

theorem toPath_isNormalForm {l : Lexical} (hl : l.Normal) : l.toPath.IsNormalForm := by
  obtain ⟨absolute, namesRev⟩ := l
  obtain ⟨k, ns, hns, habs, hnames⟩ := hl
  simp only at habs hnames
  subst hnames
  refine ⟨k, ns, hns, ?_⟩
  cases absolute with
  | true =>
    obtain rfl := habs rfl
    rw [List.replicate_zero, List.append_nil, Lexical.toPath_root]
    exact .inl ⟨ofNames_isAbsolute ns, components_ofNames hns⟩
  | false =>
    have hcomps : (Lexical.mk false (ns.reverse ++ List.replicate k "..")).toPath.components =
        List.replicate k .parent ++ ns.map .name := Lexical.components_toPath_relative hns
    exact .inr ⟨isAbsolute_eq_false_of_components hcomps, hcomps⟩

theorem normalize_isNormalForm (p : Path) : p.normalize.IsNormalForm :=
  toPath_isNormalForm (ofComponents_normal p)

theorem normalize_normalize (p : Path) : p.normalize.normalize = p.normalize := by
  rw [normalize, normalize, Lexical.ofComponents_components_toPath (ofComponents_normal p)]

/-- Normalizing a base before joining to it changes nothing once the join is normalized. -/
theorem normalize_join_normalize (p q : Path) :
    (p.normalize.join q).normalize = (p.join q).normalize := by
  cases hq : q.isAbsolute with
  | true => simp [join, hq]
  | false =>
    show (Lexical.ofComponents (p.normalize.join q).components).toPath =
      (Lexical.ofComponents (p.join q).components).toPath
    rw [ofComponents_join _ hq, ofComponents_join _ hq, normalize,
      Lexical.ofComponents_components_toPath (ofComponents_normal p)]

/-- Against an absolute base, a resolved path resolves to itself. -/
theorem resolve_resolve {b : Path} (x : Path) (hb : b.isAbsolute = true) :
    resolve b (resolve b x) = resolve b x := by
  rw [resolve, join, if_pos (resolve_isAbsolute x hb), resolve, normalize_normalize]

/-- Lexical normalization is a normal form: the result has no `.` component and no `..`
after the root or a name, normalizing again changes nothing, a base may be normalized
before a path is joined to it, and resolving against an absolute base twice is resolving
once. -/
theorem normalize_normal_form :
    (∀ p : Path, p.normalize.IsNormalForm) ∧
    (∀ p : Path, p.normalize.normalize = p.normalize) ∧
    (∀ p q : Path, (p.join q).normalize = (p.normalize.join q).normalize) ∧
    (∀ b x : Path, b.isAbsolute = true → resolve b (resolve b x) = resolve b x) :=
  ⟨normalize_isNormalForm, normalize_normalize, fun p q => (normalize_join_normalize p q).symm,
    fun _ x hb => resolve_resolve x hb⟩

theorem normal_form_resolves_once :
    (Path.mk "/").isAbsolute = true ∧
      resolve ⟨"/"⟩ (resolve ⟨"/"⟩ ⟨"a/../b"⟩) = resolve ⟨"/"⟩ ⟨"a/../b"⟩ :=
  ⟨(isAbsolute_iff "/").2 rfl, normalize_normal_form.2.2.2 ⟨"/"⟩ ⟨"a/../b"⟩ ((isAbsolute_iff "/").2 rfl)⟩

end Path

end ImportPath
