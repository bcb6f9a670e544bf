import Mathlib.Data.String.Basic
import ImportPath.Proofs.Absolute

/-!
# Path texts, part by part

A path text is read by cutting it at `/`. This module connects that cut with the characters
of the text (`splitOn_slash`), and from it describes the normal form of absolute paths: the
root followed by *names*, texts that are not empty, not `.` or `..`, and hold no `/`
(`Path.ofNames`, `Path.IsNormal`). Normalizing an absolute path gives such a path
(`normalize_isNormal`), and on normal paths the component view and the parent are computed
name by name.

What this module delivers:

* `textComponents`, the components a text stands for after a separator, with its rules for
  `a ++ "/" ++ b`, for texts without `/`, and for names joined by `/`.
* `IsName`, `Path.ofNames` and `Path.IsNormal`.
* The reading of a normal path back into its names (`components_ofNames`) and its parent
  (`parent_ofNames_append`), and the normal form of every normalized absolute path
  (`normalize_isNormal`).
-/

namespace ImportPath

open String in
/-- Cutting at a one-character separator, read position by position: the state `l`, `m`,
`r` is the text already cut, the current piece and the rest. -/
theorem splitOnAux_slash (l m r : List Char) (acc : List String) :
    splitOnAux (ofList (l ++ m ++ r)) "/" ⟨utf8Len l⟩ ⟨utf8Len l + utf8Len m⟩ 0 acc =
      acc.reverse ++ (List.splitOnPPrepend (· == '/') r m.reverse).map ofList := by
  rw [splitOnAux]
  simp only [List.append_assoc, atEnd_iff, rawEndPos_ofList, utf8Len_append, Pos.Raw.mk_le_mk,
    Nat.add_le_add_iff_left, (by omega : utf8Len m + utf8Len r ≤ utf8Len m ↔ utf8Len r = 0),
    utf8Len_eq_zero]
  split
  · subst r
    simpa using extract_of_valid l m []
  · obtain ⟨c, r, rfl⟩ := r.exists_cons_of_ne_nil ‹_›
    have hget : Pos.Raw.get (ofList (l ++ (m ++ c :: r))) ⟨utf8Len l + utf8Len m⟩ = c := by
      simpa [utf8Len_append] using get_of_valid (l ++ m) (c :: r)
    have hnext : Pos.Raw.next (ofList (l ++ (m ++ c :: r))) ⟨utf8Len l + utf8Len m⟩ =
        ⟨utf8Len l + utf8Len m + c.utf8Size⟩ := by
      simpa [utf8Len_append] using next_of_valid (l ++ m) c r
    have hsep : Pos.Raw.get "/" 0 = '/' := by decide
    have hsep' : Pos.Raw.next "/" 0 = ⟨1⟩ := by decide
    have hend : "/".rawEndPos ≤ ⟨1⟩ := by decide
    rw [hget, hsep]
    split <;> rename_i h
    · -- a separator closes the current piece and starts an empty one
      simp only [beq_iff_eq] at h
      subst h
      have hsize : '/'.utf8Size = 1 := by decide
      have hback : Pos.Raw.unoffsetBy ⟨utf8Len l + utf8Len m + 1⟩ ⟨1⟩ =
          ⟨utf8Len l + utf8Len m⟩ := by
        simp [Pos.Raw.unoffsetBy]
      rw [hnext, hsep', if_pos hend, hsize, hback]
      have hm : Pos.Raw.extract (ofList (l ++ (m ++ '/' :: r))) ⟨utf8Len l⟩
          ⟨utf8Len l + utf8Len m⟩ = ofList m := by
        simpa using extract_of_valid l m ('/' :: r)
      rw [hm]
      simpa [List.splitOnPPrepend_cons_pos, Nat.add_assoc, hsize] using
        splitOnAux_slash (l ++ m ++ ['/']) [] r (ofList m :: acc)
    · -- any other character extends the current piece
      have hzero : Pos.Raw.unoffsetBy ⟨utf8Len l + utf8Len m⟩ 0 = ⟨utf8Len l + utf8Len m⟩ := by
        simp [Pos.Raw.unoffsetBy]
      rw [hzero, hnext]
      simpa [List.splitOnPPrepend_cons_neg, h, Nat.add_assoc] using
        splitOnAux_slash l (m ++ [c]) r acc
termination_by r.length

/-- Cutting a text at `/` is cutting its characters at `/`. -/
theorem splitOn_slash (s : String) :
    s.splitOn "/" = (s.toList.splitOn '/').map String.ofList := by
  simpa [String.splitOn, List.splitOn_eq_splitOnP] using splitOnAux_slash [] [] s.toList []

/-- No piece of a cut holds the separator. -/
theorem not_mem_of_mem_splitOn {c : Char} :
    ∀ {xs part : List Char}, part ∈ xs.splitOn c → c ∉ part
  | [], part, h => by simp_all
  | x :: xs, part, h => by
    rw [List.splitOn_cons_eq_if_modifyHead] at h
    split at h
    · simp only [List.mem_cons] at h
      rcases h with rfl | h
      · simp
      · exact not_mem_of_mem_splitOn h
    · rename_i hx
      obtain ⟨p, ps, hps⟩ := List.exists_cons_of_ne_nil (List.splitOn_ne_nil c xs)
      rw [hps, List.modifyHead_cons, List.mem_cons] at h
      rcases h with rfl | h
      · have hp : c ∉ p :=
          not_mem_of_mem_splitOn (show p ∈ xs.splitOn c by rw [hps]; exact List.mem_cons_self)
        simp only [List.mem_cons, not_or]
        refine ⟨?_, hp⟩
        rintro rfl
        simp at hx
      · exact not_mem_of_mem_splitOn (by rw [hps]; exact List.mem_cons_of_mem _ h)

/-! ## The components of a text -/

/-- The components a text stands for when it follows a separator. -/
def textComponents (s : String) : List Component :=
  (s.splitOn "/").filterMap partComponent

theorem textComponents_slash_append (a b : String) :
    textComponents (a ++ "/" ++ b) = textComponents a ++ textComponents b := by
  have h : (a ++ "/" ++ b).toList = a.toList ++ '/' :: b.toList := by simp
  simp only [textComponents, splitOn_slash, h, List.splitOn_append_cons_self, List.map_append,
    List.filterMap_append]

/-- A text without separators is one part. -/
theorem textComponents_of_not_mem {s : String} (h : '/' ∉ s.toList) :
    textComponents s = (partComponent s).toList := by
  simp only [textComponents, splitOn_slash, List.splitOn_eq_singleton h, List.map_cons,
    List.map_nil, String.ofList_toList]
  cases h' : partComponent s <;> simp [h']

theorem textComponents_empty : textComponents "" = [] := by
  rw [textComponents_of_not_mem (by simp)]
  rfl

theorem textComponents_current : textComponents "." = [] := by
  rw [textComponents_of_not_mem (by simp)]
  rfl

/-- The parts of a text joined by separators stand for the components of the parts. -/
theorem textComponents_intercalate :
    ∀ {ss : List String}, (∀ s ∈ ss, '/' ∉ s.toList) →
      textComponents ("/".intercalate ss) = ss.filterMap partComponent
  | [], _ => by simp [String.intercalate_nil, textComponents_empty]
  | [a], h => by
    rw [String.intercalate_singleton, textComponents_of_not_mem (h a (by simp))]
    cases h' : partComponent a <;> simp [h']
  | a :: b :: rest, h => by
    rw [String.intercalate_cons_cons, textComponents_slash_append,
      textComponents_of_not_mem (h a (by simp)),
      textComponents_intercalate (fun s hs => h s (List.mem_cons_of_mem _ hs))]
    cases h' : partComponent a <;> simp [h']

/-- A text after the root is read as the root and the components of the text. -/
theorem components_root_append (s : String) :
    (Path.mk ("/" ++ s)).components = .root :: textComponents s := by
  have habs : (Path.mk ("/" ++ s)).isAbsolute = true :=
    Path.isAbsolute_append s Path.rootDir_isAbsolute
  have hbody : (Path.mk ("/" ++ s)).body = s := by
    have hlen : "/".length = 1 := by decide
    simp [Path.body, Path.headText, habs, hlen]
  rw [Path.components_of_isAbsolute habs, Path.parts, hbody]
  by_cases hs : s = ""
  · subst hs
    simp [textComponents_empty]
  · simp [hs, textComponents]

/-! ## Names and normal paths -/

/-- A name of a normalized path: not empty, neither `.` nor `..`, and without `/`. -/
structure IsName (n : String) : Prop where
  ne_empty : n ≠ ""
  ne_current : n ≠ "."
  ne_parent : n ≠ ".."
  no_slash : '/' ∉ n.toList

instance (n : String) : Decidable (IsName n) :=
  decidable_of_iff (n ≠ "" ∧ n ≠ "." ∧ n ≠ ".." ∧ '/' ∉ n.toList)
    ⟨fun ⟨h₁, h₂, h₃, h₄⟩ => ⟨h₁, h₂, h₃, h₄⟩, fun h => ⟨h.1, h.2, h.3, h.4⟩⟩

theorem partComponent_of_isName {n : String} (h : IsName n) :
    partComponent n = some (.name n) := by
  unfold partComponent
  split
  · exact absurd rfl h.ne_empty
  · exact absurd rfl h.ne_current
  · exact absurd rfl h.ne_parent
  · rfl

/-- Names joined by separators are read back as those names. -/
theorem textComponents_intercalate_names {ns : List String} (h : ∀ n ∈ ns, IsName n) :
    textComponents ("/".intercalate ns) = ns.map .name := by
  rw [textComponents_intercalate (fun n hn => (h n hn).no_slash)]
  induction ns with
  | nil => rfl
  | cons n ns ih =>
    simp only [List.mem_cons, forall_eq_or_imp] at h
    rw [List.filterMap_cons, partComponent_of_isName h.1, ih h.2, List.map_cons]

/-- The absolute path of the root followed by the names `ns`. -/
def Path.ofNames (ns : List String) : Path := ⟨"/" ++ "/".intercalate ns⟩

/-- A normalized absolute path: the root followed by names. -/
def Path.IsNormal (p : Path) : Prop :=
  ∃ ns : List String, (∀ n ∈ ns, IsName n) ∧ p = Path.ofNames ns

theorem components_ofNames {ns : List String} (h : ∀ n ∈ ns, IsName n) :
    (Path.ofNames ns).components = .root :: ns.map .name := by
  rw [Path.ofNames, components_root_append, textComponents_intercalate_names h]

theorem ofNames_isAbsolute (ns : List String) : (Path.ofNames ns).isAbsolute = true :=
  Path.isAbsolute_append _ Path.rootDir_isAbsolute

/-- Each component of a text is a parent or a name. -/
theorem mem_textComponents {s : String} {c : Component} (hc : c ∈ textComponents s) :
    c = .parent ∨ ∃ n, c = .name n ∧ IsName n := by
  obtain ⟨part, hpart, hsome⟩ := List.mem_filterMap.1 hc
  rw [splitOn_slash] at hpart
  obtain ⟨cs, hcs, rfl⟩ := List.mem_map.1 hpart
  have hslash : '/' ∉ (String.ofList cs).toList := by
    simpa using not_mem_of_mem_splitOn hcs
  unfold partComponent at hsome
  split at hsome
  · cases hsome
  · cases hsome
  · cases hsome
    exact .inl rfl
  · rename_i hne hcur hpar
    cases hsome
    exact .inr ⟨_, rfl, ⟨hne, hcur, hpar, hslash⟩⟩

/-- The parts of a path stand for the components of its body. -/
theorem parts_filterMap (p : Path) : p.parts.filterMap partComponent = textComponents p.body := by
  unfold Path.parts
  split
  · rename_i h
    rw [String.isEmpty_iff.1 h, textComponents_empty]
    rfl
  · rfl

/-- An absolute path reads as the root and the components of its body. -/
theorem components_of_isAbsolute' {p : Path} (hp : p.isAbsolute = true) :
    p.components = .root :: textComponents p.body := by
  rw [Path.components_of_isAbsolute hp, parts_filterMap]

namespace Lexical

/-- Reading names appends them. -/
theorem foldl_step_names (ns : List String) (l : Lexical) :
    (ns.map Component.name).foldl step l = ⟨l.absolute, ns.reverse ++ l.namesRev⟩ := by
  induction ns generalizing l with
  | nil => rfl
  | cons n ns ih =>
    rw [List.map_cons, List.foldl_cons, ih]
    simp [step]

/-- At the root, reading `m` parents removes the last `m` names, none of them `..`. -/
theorem foldl_step_parents (m : Nat) :
    ∀ {ns : List String}, (∀ n ∈ ns, n ≠ "..") →
      (List.replicate m Component.parent).foldl step ⟨true, ns⟩ = ⟨true, ns.drop m⟩ := by
  induction m with
  | zero => intro ns _; rfl
  | succ m ih =>
    intro ns h
    rw [List.replicate_succ, List.foldl_cons]
    cases ns with
    | nil =>
      have h0 := @ih [] (by simp)
      simpa [step] using h0
    | cons n rest =>
      have hn : (n == "..") = false := by simpa using h n (by simp)
      simp only [step, hn, Bool.false_eq_true, if_false, List.drop_succ_cons]
      exact ih (fun x hx => h x (List.mem_cons_of_mem _ hx))

theorem toPath_root (ns : List String) : (⟨true, ns.reverse⟩ : Lexical).toPath = Path.ofNames ns := by
  simp [toPath, Path.ofNames]

/-- A state at the root whose names are all names. -/
def Clean (l : Lexical) : Prop := l.absolute = true ∧ ∀ n ∈ l.namesRev, IsName n

/-- Reading a parent or a name keeps a state clean. -/
theorem Clean.step {l : Lexical} (hl : l.Clean) {c : Component}
    (hc : c = .parent ∨ ∃ n, c = .name n ∧ IsName n) : (l.step c).Clean := by
  obtain ⟨habs, hnames⟩ := hl
  rcases hc with rfl | ⟨n, rfl, hn⟩
  · simp only [Lexical.step]
    split
    · rename_i x rest hx
      have hx' : (x == "..") = false := by
        simpa using (hnames x (by simp [hx])).ne_parent
      simp only [hx', Bool.false_eq_true, if_false]
      exact ⟨habs, fun y hy => hnames y (by simp [hx, hy])⟩
    · simp only [habs, if_true]
      exact ⟨habs, hnames⟩
  · refine ⟨habs, ?_⟩
    simp only [Lexical.step, List.mem_cons]
    rintro y (rfl | hy)
    · exact hn
    · exact hnames y hy

/-- Reading parents and names keeps a state clean. -/
theorem Clean.foldl {l : Lexical} (hl : l.Clean) {cs : List Component}
    (hcs : ∀ c ∈ cs, c = .parent ∨ ∃ n, c = .name n ∧ IsName n) :
    (cs.foldl Lexical.step l).Clean := by
  induction cs generalizing l with
  | nil => exact hl
  | cons c cs ih =>
    rw [List.foldl_cons]
    exact ih (hl.step (hcs c (by simp))) (fun x hx => hcs x (by simp [hx]))

/-- A clean state is written as the root followed by its names. -/
theorem Clean.toPath_eq {l : Lexical} (hl : l.Clean) :
    l.toPath = Path.ofNames l.namesRev.reverse := by
  obtain ⟨absolute, namesRev⟩ := l
  obtain ⟨habs, -⟩ := hl
  simp only at habs
  subst habs
  rw [← toPath_root, List.reverse_reverse]

end Lexical

namespace Path

/-- Normalizing an absolute path gives the root followed by names. -/
theorem normalize_isNormal {p : Path} (hp : p.isAbsolute = true) : p.normalize.IsNormal := by
  have hclean : (Lexical.ofComponents p.components).Clean := by
    rw [components_of_isAbsolute' hp, Lexical.ofComponents, List.foldl_cons]
    exact Lexical.Clean.foldl ⟨rfl, by simp [Lexical.step]⟩ fun c hc => mem_textComponents hc
  refine ⟨_, fun n hn => hclean.2 n (List.mem_reverse.1 hn), ?_⟩
  rw [normalize, hclean.toPath_eq]

/-- A normal path is its own normal form. -/
theorem normalize_ofNames {ns : List String} (h : ∀ n ∈ ns, IsName n) :
    (ofNames ns).normalize = ofNames ns := by
  rw [normalize, components_ofNames h, Lexical.ofComponents, List.foldl_cons,
    Lexical.foldl_step_names, ← Lexical.toPath_root]
  simp [Lexical.step]

/-- A normal path taken against any directory is itself. -/
theorem IsNormal.resolve_eq {p : Path} (hp : p.IsNormal) (base : Path) : resolve base p = p := by
  obtain ⟨ns, hns, rfl⟩ := hp
  rw [resolve, join, if_pos (ofNames_isAbsolute ns), normalize_ofNames hns]

theorem headText_ofNames (ns : List String) : (ofNames ns).headText = "/" := by
  simp only [headText, ofNames_isAbsolute, if_true]

theorem body_ofNames (ns : List String) : (ofNames ns).body = "/".intercalate ns := by
  have hlen : "/".length = 1 := by decide
  rw [body, headText_ofNames, hlen, ← String.toList_inj]
  simp [ofNames]

/-- Blank parts at the end are dropped; a list of names has none. -/
theorem dropBlankTail_of_names {ns : List String} (h : ∀ n ∈ ns, IsName n) :
    dropBlankTail ns = ns := by
  unfold dropBlankTail
  cases hr : ns.reverse with
  | nil => simp_all
  | cons x rest =>
    have hx : isBlankPart x = false := by
      have hxn : IsName x := h x (List.mem_reverse.1 (by simp [hr]))
      simp [isBlankPart, partComponent_of_isName hxn]
    rw [List.dropWhile_cons_of_neg (by simp [hx]), ← hr, List.reverse_reverse]

theorem parts_ofNames {ns : List String} (h : ∀ n ∈ ns, IsName n) (hne : ns ≠ []) :
    (ofNames ns).parts = ns := by
  have hbody : ("/".intercalate ns).isEmpty = false := by
    obtain ⟨n, rest, rfl⟩ := List.exists_cons_of_ne_nil hne
    have hn := (h n (by simp)).ne_empty
    cases rest with
    | nil => simpa using hn
    | cons m rest => simp [String.intercalate_cons_cons]
  have hsl : "/".toList = ['/'] := by simp
  rw [parts, body_ofNames, hbody, if_neg (by simp), splitOn_slash, String.toList_intercalate, hsl,
    List.splitOn_intercalate _ (by simpa using fun n hn => (h n hn).no_slash) (by simpa using hne)]
  simp

/-- The parent of a normal path drops its last name. -/
theorem parent_ofNames_append {ns : List String} {n : String} (h : ∀ x ∈ ns ++ [n], IsName x) :
    (ofNames (ns ++ [n])).parent = some (ofNames ns) := by
  have hns : ∀ x ∈ ns, IsName x := fun x hx => h x (by simp [hx])
  unfold parent lastPart?
  rw [parts_ofNames h (by simp), dropBlankTail_of_names h, List.reverse_append]
  simp only [List.reverse_cons, List.reverse_nil, List.nil_append, List.singleton_append,
    List.reverse_reverse]
  rw [dropBlankTail_of_names hns, headText_ofNames]
  rfl

/-- A file given by its names is taken as it is from any directory, and its parent is given by
the names before its own. -/
theorem parent_resolve_ofNames (base : Path) (ns : List String) {n : String}
    (h : ∀ x ∈ ns ++ [n], IsName x) :
    (resolve base (ofNames (ns ++ [n]))).parent = some (ofNames ns) := by
  rw [IsNormal.resolve_eq ⟨_, h, rfl⟩]
  exact parent_ofNames_append h

theorem parent_ofNames_nil : (ofNames []).parent = none := by
  have hparts : (ofNames []).parts = [] := by
    simp [parts, body_ofNames]
  have hlead : (ofNames []).leadsWithCurrent = false := by
    simp [leadsWithCurrent, ofNames_isAbsolute]
  -- no part is left, and an absolute path does not lead with `.`
  unfold parent lastPart?
  simp only [hparts, dropBlankTail, List.reverse_nil, List.dropWhile_nil, hlead]
  rfl

/-- The parent of a normal path is normal. -/
theorem IsNormal.parent {p q : Path} (hp : p.IsNormal) (h : p.parent = some q) : q.IsNormal := by
  obtain ⟨ns, hns, rfl⟩ := hp
  rcases List.eq_nil_or_concat ns with rfl | ⟨ns0, n, rfl⟩
  · rw [parent_ofNames_nil] at h
    cases h
  · rw [List.concat_eq_append] at hns
    rw [List.concat_eq_append, parent_ofNames_append hns] at h
    cases h
    exact ⟨ns0, fun x hx => hns x (by simp [hx]), rfl⟩

end Path

end ImportPath
