import ImportPath.Proofs.NormalForm
import ImportPath.Proofs.LocatedFiles
import Mathlib.Data.List.TakeWhile

/-!
# The way from one file's directory to another file

`Path.relativeFrom cwd fromFile toFile` is the way from the directory of `fromFile` (its
parent as written, taken against `cwd`) to `toFile` taken against `cwd`. Against an absolute
`cwd` both ends are normal paths, and the way is a run of `..` followed by names: one `..` for
each name of the directory after the longest prefix it shares with the target, then the rest
of the target. Joined to the directory and normalized, the way gives the target, with or
without the leading `./` of a local specifier; no way of that shape is shorter; and it is
empty exactly when the directory is the target.

The directory is the parent of the file as written. When the file's last component is a name,
it is also the parent of the file once resolved (`parent_resolve`). A file written as `a/..`
or `.` has no name last, and its directory is `a` or the working directory, not the parent of
what it resolves to.

Main statement: `relativeFrom_round_trip`.
-/

namespace ImportPath

namespace Path

/-! ## The parent as written

The parent keeps the head of a path and the parts before its last non-blank part. Read as
components it is the path without its last component, and it stays absolute or relative with
the path. -/

theorem intercalate_splitOn_slash (s : String) : "/".intercalate (s.splitOn "/") = s := by
  rw [← String.toList_inj, String.toList_intercalate, splitOn_slash, List.map_map]
  simp [Function.comp_def]

/-- The body of a path is its parts joined by separators. -/
theorem body_eq_intercalate_parts (p : Path) : p.body = "/".intercalate p.parts := by
  unfold parts
  split
  · rename_i h
    rw [String.isEmpty_iff.1 h]
    rfl
  · exact (intercalate_splitOn_slash _).symm

theorem not_mem_of_mem_parts {p : Path} {x : String} (hx : x ∈ p.parts) : '/' ∉ x.toList := by
  unfold parts at hx
  split at hx
  · cases hx
  · rw [splitOn_slash] at hx
    obtain ⟨cs, hcs, rfl⟩ := List.mem_map.1 hx
    simpa using not_mem_of_mem_splitOn hcs

/-- The parts of a path with a leading `.` start with the empty part before the separator. -/
theorem parts_of_leadsWithCurrent {p : Path} (hlead : p.leadsWithCurrent = true) :
    p.parts = [] ∨ ∃ rest, p.parts = "" :: rest := by
  rcases body_of_leadsWithCurrent hlead with hb | ⟨r, hb⟩
  · left
    simp [parts, hb]
  · right
    refine ⟨r.splitOn "/", ?_⟩
    have hne : p.body.isEmpty = false := by
      simp [hb]
    rw [parts, hne, if_neg Bool.false_ne_true, hb, FileTree.splitOn_root_append]

/-- A list of parts is its parts up to the last non-blank one, then blank parts. -/
theorem eq_dropBlankTail_append (ps : List String) :
    ps = dropBlankTail ps ++ (ps.reverse.takeWhile isBlankPart).reverse := by
  rw [dropBlankTail, ← List.reverse_append, List.takeWhile_append_dropWhile, List.reverse_reverse]

/-- Blank parts at the end stand for no component. -/
theorem filterMap_dropBlankTail (ps : List String) :
    (dropBlankTail ps).filterMap partComponent = ps.filterMap partComponent := by
  have hblank : ∀ b ∈ (ps.reverse.takeWhile isBlankPart).reverse, partComponent b = none := by
    intro b hb
    have h := List.mem_takeWhile_imp (List.mem_reverse.1 hb)
    simpa [isBlankPart] using h
  conv => rhs; rw [eq_dropBlankTail_append ps]
  rw [List.filterMap_append, List.filterMap_eq_nil_iff.2 hblank, List.append_nil]

theorem dropBlankTail_isPrefix (ps : List String) : dropBlankTail ps <+: ps :=
  ⟨_, (eq_dropBlankTail_append ps).symm⟩

/-- The last part kept is not blank. -/
theorem not_isBlankPart_of_dropBlankTail {ps before : List String} {last : String}
    (h : dropBlankTail ps = before ++ [last]) : isBlankPart last = false := by
  have hdrop : ps.reverse.dropWhile isBlankPart = last :: before.reverse := by
    rw [← List.reverse_reverse (ps.reverse.dropWhile isBlankPart)]
    unfold dropBlankTail at h
    rw [h]
    simp
  have hhead := List.head_dropWhile_not isBlankPart
    (by simp [hdrop] : ps.reverse.dropWhile isBlankPart ≠ [])
  simpa [hdrop] using hhead

/-- The parts of a path read after its head text stand for their components. -/
theorem textComponents_headText_intercalate {p : Path} {ps : List String} (hps : ps <+: p.parts) :
    textComponents (p.headText ++ "/".intercalate ps) = ps.filterMap partComponent := by
  have hslash : ∀ x ∈ ps, '/' ∉ x.toList := fun x hx => not_mem_of_mem_parts (hps.subset hx)
  unfold headText
  split
  · rw [textComponents_root_append, textComponents_intercalate hslash]
  · split
    · -- after a leading `.` the kept parts start with the empty part before the separator
      rename_i hlead
      rcases ps with _ | ⟨x, ps⟩
      · exact textComponents_current
      · have hx : x = "" := by
          rcases parts_of_leadsWithCurrent hlead with h | ⟨rest, h⟩
          · rw [h] at hps
            exact absurd (List.prefix_nil.1 hps) (List.cons_ne_nil _ _)
          · rw [h] at hps
            exact (List.cons_prefix_cons.1 hps).1
        subst hx
        cases ps with
        | nil => exact textComponents_current
        | cons y ys =>
          rw [String.intercalate_cons_cons, String.empty_append, ← String.append_assoc,
            textComponents_slash_append, textComponents_current,
            textComponents_intercalate (fun z hz => hslash z (List.mem_cons_of_mem _ hz))]
          rfl
    · rw [String.empty_append, textComponents_intercalate hslash]

/-- Parts joined by separators start the text of more parts joined the same way. -/
theorem intercalate_isPrefix (ps more : List String) :
    ("/".intercalate ps).toList <+: ("/".intercalate (ps ++ more)).toList := by
  by_cases hps : ps = []
  · simp [hps]
  by_cases hmore : more = []
  · simp [hmore]
  rw [String.intercalate_append_of_ne_nil hps hmore, String.append_assoc, String.toList_append]
  exact List.prefix_append _ _

/-- The path the parent writes is absolute exactly when the path is. -/
theorem isAbsolute_ofParts_headText {p : Path} {ps : List String} (hps : ps <+: p.parts) :
    (ofParts p.headText ps).isAbsolute = p.isAbsolute := by
  unfold ofParts headText
  split
  · rename_i habs
    rw [habs]
    exact isAbsolute_append _ rootDir_isAbsolute
  · rename_i habs
    rw [Bool.not_eq_true] at habs
    rw [habs]
    split
    · rw [← Bool.not_eq_true, isAbsolute_iff]
      simp
    · -- without a head, the kept parts start the text itself
      rename_i hlead
      rw [Bool.not_eq_true] at hlead
      rw [String.empty_append, ← Bool.not_eq_true, isAbsolute_iff]
      intro h
      have htext : p.text = "/".intercalate p.parts := by
        rw [text_eq_headText_append_body, body_eq_intercalate_parts]
        simp [headText, habs, hlead]
      obtain ⟨more, hmore⟩ := hps
      obtain ⟨u, hu⟩ := intercalate_isPrefix ps more
      have hhead : p.text.toList.head? = some '/' := by
        rw [htext, ← hmore, ← hu, List.head?_append, h]
        rfl
      rw [← Bool.not_eq_true] at habs
      exact habs ((isAbsolute_iff p.text).2 hhead)

theorem fileName_eq_some_iff {p : Path} {n : String} :
    p.fileName = some n ↔ p.components.getLast? = some (.name n) := by
  unfold fileName
  split <;> simp_all

/-- A path whose last component is a name `n` has a parent: the path without `n`, absolute
exactly when the path is. -/
theorem parent_of_fileName {p : Path} {n : String} (h : p.fileName = some n) :
    ∃ q, p.parent = some q ∧ q.isAbsolute = p.isAbsolute ∧
      textComponents p.text = textComponents q.text ++ [.name n] := by
  have hcomps : p.components =
      p.headComponents ++ (dropBlankTail p.parts).filterMap partComponent := by
    rw [components, filterMap_dropBlankTail]
  rw [fileName_eq_some_iff, hcomps] at h
  rcases List.eq_nil_or_concat (dropBlankTail p.parts) with hnil | ⟨before, last, hbl⟩
  · -- without parts, the last component is the root or the leading `.`, never a name
    rw [hnil, List.filterMap_nil, List.append_nil] at h
    unfold headComponents at h
    split at h
    · simp at h
    · split at h <;> simp at h
  · rw [List.concat_eq_append] at hbl
    obtain ⟨c, hc⟩ : ∃ c, partComponent last = some c :=
      Option.isSome_iff_exists.1 (by simpa [isBlankPart] using not_isBlankPart_of_dropBlankTail hbl)
    have hcn : c = .name n := by
      rw [hbl, List.filterMap_append, List.filterMap_cons, hc, List.filterMap_nil,
        ← List.append_assoc, List.getLast?_concat] at h
      exact Option.some.inj h
    -- the parent keeps a prefix of the parts
    have hkept : dropBlankTail before <+: p.parts :=
      ((dropBlankTail_isPrefix before).trans (List.prefix_append before [last])).trans
        (hbl ▸ dropBlankTail_isPrefix p.parts)
    refine ⟨ofParts p.headText (dropBlankTail before), ?_, isAbsolute_ofParts_headText hkept, ?_⟩
    · unfold parent lastPart?
      rw [hbl]
      simp
    · rw [textComponents_text p, ← parts_filterMap, ← filterMap_dropBlankTail, hbl,
        List.filterMap_append, ofParts, textComponents_headText_intercalate hkept,
        filterMap_dropBlankTail, List.filterMap_cons, hc, hcn]
      rfl

/-! ## The parent of a resolved file -/

open Lexical in
/-- A path taken against a base is read from the root when it is absolute, and after the
base otherwise; its head stands for nothing more. -/
theorem ofComponents_join_eq (base f : Path) :
    ofComponents (base.join f).components =
      (textComponents f.text).foldl step
        (if f.isAbsolute then ⟨true, []⟩ else ofComponents base.components) := by
  cases hf : f.isAbsolute with
  | true =>
    rw [join, if_pos hf, if_pos rfl, components_eq]
    simp [headComponents, hf, ofComponents, step]
  | false =>
    rw [if_neg Bool.false_ne_true, ofComponents_join base hf]

/-- An absolute path is read into the root and names. -/
theorem ofComponents_of_isAbsolute {p : Path} (hp : p.isAbsolute = true) :
    ∃ ns : List String, (∀ n ∈ ns, IsName n) ∧ Lexical.ofComponents p.components = ⟨true, ns.reverse⟩ := by
  obtain ⟨k, ns, hns, habs, hnames⟩ := ofComponents_normal p
  have hroot : (Lexical.ofComponents p.components).absolute = true := by
    rw [Lexical.ofComponents, components_of_isAbsolute hp, List.foldl_cons]
    exact Lexical.foldl_step_absolute _ rfl
  refine ⟨ns, hns, ?_⟩
  rw [habs hroot, List.replicate_zero, List.append_nil] at hnames
  rw [← hroot, ← hnames]

/-- When the last component of a file is a name, the parent of the resolved file is the
parent as written, resolved. -/
theorem parent_resolve {cwd : Path} (hcwd : cwd.isAbsolute = true) {f : Path} {n : String}
    (h : f.fileName = some n) :
    ∃ q, f.parent = some q ∧ (resolve cwd f).parent = some (resolve cwd q) := by
  obtain ⟨q, hq, habs, htext⟩ := parent_of_fileName h
  refine ⟨q, hq, ?_⟩
  have hn : IsName n :=
    isName_of_mem_components (List.mem_of_getLast? (fileName_eq_some_iff.1 h)) rfl
  -- the parent resolves to the root and names `ns`, and the file to `ns` and `n`
  obtain ⟨ns, hns, hstate⟩ := ofComponents_of_isAbsolute (join_isAbsolute q hcwd)
  have hq' : resolve cwd q = ofNames ns := by
    rw [resolve, normalize, hstate, Lexical.toPath_root]
  have hf : resolve cwd f = ofNames (ns ++ [n]) := by
    rw [resolve, normalize, ofComponents_join_eq, htext, List.foldl_append, ← habs,
      ← ofComponents_join_eq, hstate, ← Lexical.toPath_root]
    simp [Lexical.step]
  rw [hq', hf]
  refine parent_ofNames_append fun x hx => ?_
  rcases List.mem_append.1 hx with hx | hx
  · exact hns x hx
  · rw [List.mem_singleton.1 hx]
    exact hn

/-! ## The way between normal paths -/

theorem isAbsolute_eq_false_of_headComponents {p : Path} (h : p.headComponents = []) :
    p.isAbsolute = false := by
  unfold headComponents at h
  split at h
  · cases h
  · simp_all

/-- Up `m` from a normal directory, then down the names `ys`. -/
theorem normalize_join_up_names {d : List String} (hd : ∀ n ∈ d, IsName n) (m : Nat)
    {ys : List String} (hys : ∀ y ∈ ys, IsName y) :
    ((ofNames d).join ⟨"/".intercalate (List.replicate m ".." ++ ys)⟩).normalize =
      ofNames (d.take (d.length - m) ++ ys) := by
  have hparts : ∀ x ∈ List.replicate m ".." ++ ys, x ≠ "" ∧ x ≠ "." ∧ '/' ∉ x.toList := by
    intro x hx
    rcases List.mem_append.1 hx with hx | hx
    · rw [List.eq_of_mem_replicate hx]
      decide
    · exact ⟨(hys x hx).ne_empty, (hys x hx).ne_current, (hys x hx).no_slash⟩
  rw [normalize_ofNames_join hd (isAbsolute_eq_false_of_headComponents
      (headComponents_intercalate hparts)),
    textComponents_intercalate_append, textComponents_replicate_parent,
    textComponents_intercalate_names hys, List.foldl_append,
    Lexical.foldl_step_parents m (fun n hn => (hd n (List.mem_reverse.1 hn)).ne_parent),
    Lexical.foldl_step_names, List.drop_reverse, ← List.reverse_append, Lexical.toPath_root]

/-- The way between two normal paths, joined to the first, leads to the second. -/
theorem normalize_join_relative_names {d g : List String} (hd : ∀ n ∈ d, IsName n)
    (hg : ∀ n ∈ g, IsName n) :
    ((ofNames d).join (relative (ofNames d) (ofNames g))).normalize = ofNames g := by
  rw [relative_ofNames hd hg,
    normalize_join_up_names hd _ (fun y hy => hg y (List.mem_of_mem_drop hy)),
    Nat.sub_sub_self (commonPrefixLength_le_left d g), take_commonPrefixLength,
    List.take_append_drop]

theorem ofNames_inj {a b : List String} (ha : ∀ n ∈ a, IsName n) (hb : ∀ n ∈ b, IsName n) :
    ofNames a = ofNames b ↔ a = b := by
  constructor
  · intro h
    have hc := congrArg components h
    rw [components_ofNames ha, components_ofNames hb, List.cons.injEq] at hc
    exact List.map_injective_iff.2 (fun _ _ h => Component.name.inj h) hc.2
  · rintro rfl
    rfl

/-- A list that starts both lists is no longer than their common prefix. -/
theorem length_le_commonPrefixLength {α : Type} [BEq α] [LawfulBEq α] {l xs ys : List α}
    (hx : l <+: xs) (hy : l <+: ys) : l.length ≤ commonPrefixLength xs ys := by
  induction l generalizing xs ys with
  | nil => exact Nat.zero_le _
  | cons a l ih =>
    cases xs with
    | nil => exact absurd (List.prefix_nil.1 hx) (List.cons_ne_nil _ _)
    | cons x xs =>
      cases ys with
      | nil => exact absurd (List.prefix_nil.1 hy) (List.cons_ne_nil _ _)
      | cons y ys =>
        obtain ⟨rfl, hx'⟩ := List.cons_prefix_cons.1 hx
        obtain ⟨rfl, hy'⟩ := List.cons_prefix_cons.1 hy
        simpa [commonPrefixLength] using ih hx' hy'

/-- No way up and down leads from one normal path to another with fewer `..` or fewer
parts than the way `relative` gives. -/
theorem relative_ofNames_shortest {d g : List String} (hd : ∀ n ∈ d, IsName n)
    (hg : ∀ n ∈ g, IsName n) {m : Nat} {ys : List String} (hys : ∀ y ∈ ys, IsName y)
    (h : ((ofNames d).join ⟨"/".intercalate (List.replicate m ".." ++ ys)⟩).normalize =
      ofNames g) :
    d.length - commonPrefixLength d g ≤ m ∧
      d.length - commonPrefixLength d g + (g.length - commonPrefixLength d g) ≤
        m + ys.length := by
  have hkept : ∀ n ∈ d.take (d.length - m) ++ ys, IsName n := by
    intro n hn
    rcases List.mem_append.1 hn with hn | hn
    · exact hd n (List.mem_of_mem_take hn)
    · exact hys n hn
  rw [normalize_join_up_names hd m hys, ofNames_inj hkept hg] at h
  -- what is left of the directory starts both paths
  have hcommon : (d.take (d.length - m)).length ≤ commonPrefixLength d g :=
    length_le_commonPrefixLength (List.take_prefix _ _) (h ▸ List.prefix_append _ _)
  have hlen : g.length = (d.take (d.length - m)).length + ys.length := by
    rw [← h, List.length_append]
  have hle := commonPrefixLength_le_left d g
  have hle' := commonPrefixLength_le_right d g
  rw [List.length_take] at hcommon hlen
  omega

/-- Names joined by separators give the empty text only when there are none. -/
theorem intercalate_eq_empty_iff {xs : List String} (h : ∀ x ∈ xs, x ≠ "") :
    "/".intercalate xs = "" ↔ xs = [] := by
  cases xs with
  | nil => simp
  | cons x rest =>
    have hx : x.toList ≠ [] := by simpa using h x (by simp)
    obtain ⟨u, hu⟩ := intercalate_isPrefix [x] rest
    simp only [List.singleton_append, String.intercalate_singleton] at hu
    simp only [reduceCtorEq, iff_false]
    intro he
    rw [he] at hu
    simp_all

/-- The way between two normal paths is empty exactly when they are the same. -/
theorem relative_ofNames_eq_empty_iff {d g : List String} (hd : ∀ n ∈ d, IsName n)
    (hg : ∀ n ∈ g, IsName n) :
    (relative (ofNames d) (ofNames g)).text = "" ↔ d = g := by
  have hne : ∀ x ∈ List.replicate (d.length - commonPrefixLength d g) ".." ++
      g.drop (commonPrefixLength d g), x ≠ "" := by
    intro x hx
    rcases List.mem_append.1 hx with hx | hx
    · rw [List.eq_of_mem_replicate hx]
      decide
    · exact (hg x (List.mem_of_mem_drop hx)).ne_empty
  rw [relative_ofNames hd hg, intercalate_eq_empty_iff hne, List.append_eq_nil_iff,
    List.replicate_eq_nil_iff, List.drop_eq_nil_iff]
  have hle := commonPrefixLength_le_left d g
  have hle' := commonPrefixLength_le_right d g
  constructor
  · rintro ⟨hk, hg'⟩
    -- the common prefix is all of both lists
    have htake := take_commonPrefixLength d g
    rw [List.take_of_length_le (by omega), List.take_of_length_le (by omega)] at htake
    exact htake
  · rintro rfl
    rw [commonPrefixLength_self]
    omega

end Path

namespace Specifier

/-- Marking a text as local twice is marking it once. -/
theorem toLocal_toLocal (s : String) : toLocal (toLocal s) = toLocal s := by
  obtain ⟨rest, hrest⟩ := toList_toLocal s
  have hne : (toLocal s).isEmpty = false := by
    simp [← String.toList_inj, hrest]
  rw [toLocal, hne, if_neg Bool.false_ne_true, if_pos (hasLocalPrefix_toLocal s)]

end Specifier

/-! ## The way from the directory of a file -/

namespace Path

/-- Relative-path math round-trips. Against an absolute working directory, let `D` be the
directory of `fromFile` (its parent as written, resolved; the parent of the resolved file
whenever `fromFile` ends in a name) and `T` the resolved `toFile`. The way `r` from `D` to
`T` leads back to `T` from `D`; it is `k` times `..` followed by names, where `k` counts the
components of `D` after its longest common prefix with `T`, and no such way is shorter; it is
empty exactly when `D` is `T`; and marked as local it starts with `./` or `../`, still leads
to `T`, and is marked as local already. -/
theorem relativeFrom_round_trip {cwd : Path} (hcwd : cwd.isAbsolute = true)
    (fromFile toFile : Path) :
    let D := resolve cwd (fromFile.parent.getD empty)
    let T := resolve cwd toFile
    let r := relativeFrom cwd fromFile toFile
    let k := D.components.length - commonPrefixLength D.components T.components
    (∀ n, fromFile.fileName = some n → (resolve cwd fromFile).parent = some D) ∧
    (D.join r).normalize = T ∧
    (∃ ns : List String, (∀ x ∈ ns, IsName x) ∧
      r.text = "/".intercalate (List.replicate k ".." ++ ns) ∧
      ∀ (m : Nat) (ys : List String), (∀ y ∈ ys, IsName y) →
        (D.join ⟨"/".intercalate (List.replicate m ".." ++ ys)⟩).normalize = T →
          k ≤ m ∧ k + ns.length ≤ m + ys.length) ∧
    (r.text = "" ↔ D = T) ∧
    Specifier.hasLocalPrefix (Specifier.toLocal r.text) = true ∧
    (D.join ⟨Specifier.toLocal r.text⟩).normalize = T ∧
    Specifier.toLocal (Specifier.toLocal r.text) = Specifier.toLocal r.text := by
  intro D T r k
  -- both ends are normal: the root followed by names
  obtain ⟨d, hd, hD⟩ := normalize_isNormal (join_isAbsolute (fromFile.parent.getD empty) hcwd)
  obtain ⟨g, hg, hT⟩ := normalize_isNormal (join_isAbsolute toFile hcwd)
  have hD' : D = ofNames d := hD
  have hT' : T = ofNames g := hT
  have hr : r = relative (ofNames d) (ofNames g) := by
    rw [← hD', ← hT']
    rfl
  have hk : k = d.length - commonPrefixLength d g := by
    simp only [k, hD', hT', components_ofNames hd, components_ofNames hg, commonPrefixLength,
      commonPrefixLength_map_name, beq_self_eq_true, if_true, List.length_cons, List.length_map]
    omega
  refine ⟨?_, ?_, ⟨g.drop (commonPrefixLength d g), fun x hx => hg x (List.mem_of_mem_drop hx),
      ?_, ?_⟩, ?_, Specifier.hasLocalPrefix_toLocal _, ?_, Specifier.toLocal_toLocal _⟩
  · intro n hn
    obtain ⟨q, hq, hparent⟩ := parent_resolve hcwd hn
    rw [hparent]
    simp [D, hq]
  · rw [hr, hD', hT']
    exact normalize_join_relative_names hd hg
  · rw [hr, hk, relative_ofNames hd hg]
  · intro m ys hys hway
    rw [hD', hT'] at hway
    rw [hk, List.length_drop]
    exact relative_ofNames_shortest hd hg hys hway
  · rw [hr, relative_ofNames_eq_empty_iff hd hg, hD', hT', ofNames_inj hd hg]
  · rw [hr, hD', hT']
    exact normalize_join_relative hd hg

theorem relativeFrom_round_trip_from_src :
    (Path.mk "/p").isAbsolute = true ∧
    let D := resolve ⟨"/p"⟩ ((Path.mk "src/a.js").parent.getD empty)
    let T := resolve ⟨"/p"⟩ ⟨"lib/b.js"⟩
    let r := relativeFrom ⟨"/p"⟩ ⟨"src/a.js"⟩ ⟨"lib/b.js"⟩
    let k := D.components.length - commonPrefixLength D.components T.components
    (∀ n, (Path.mk "src/a.js").fileName = some n →
      (resolve ⟨"/p"⟩ ⟨"src/a.js"⟩).parent = some D) ∧
    (D.join r).normalize = T ∧
    (∃ ns : List String, (∀ x ∈ ns, IsName x) ∧
      r.text = "/".intercalate (List.replicate k ".." ++ ns) ∧
      ∀ (m : Nat) (ys : List String), (∀ y ∈ ys, IsName y) →
        (D.join ⟨"/".intercalate (List.replicate m ".." ++ ys)⟩).normalize = T →
          k ≤ m ∧ k + ns.length ≤ m + ys.length) ∧
    (r.text = "" ↔ D = T) ∧
    Specifier.hasLocalPrefix (Specifier.toLocal r.text) = true ∧
    (D.join ⟨Specifier.toLocal r.text⟩).normalize = T ∧
    Specifier.toLocal (Specifier.toLocal r.text) = Specifier.toLocal r.text :=
  ⟨(isAbsolute_iff "/p").2 rfl,
    relativeFrom_round_trip ((isAbsolute_iff "/p").2 rfl) ⟨"src/a.js"⟩ ⟨"lib/b.js"⟩⟩

/-- The directory is the parent as written, not the parent of the resolved file: from `/p`
the file `.` resolves to `/p`, whose parent is `/`, while its directory is `/p` itself. The way
from there to `b` is `b`, which from `/` leads to `/b` and not to `/p/b`. -/
theorem relativeFrom_current_file_misses_parent :
    (resolve (ofNames ["p"]) ⟨"."⟩).parent = some (ofNames []) ∧
      relativeFrom (ofNames ["p"]) ⟨"."⟩ ⟨"b"⟩ = ⟨"b"⟩ ∧
      ((ofNames []).join (relativeFrom (ofNames ["p"]) ⟨"."⟩ ⟨"b"⟩)).normalize ≠
        resolve (ofNames ["p"]) ⟨"b"⟩ := by
  have hp : ∀ n ∈ ["p"], IsName n := by decide
  have hb : IsName "b" := by decide
  have hlead : (Path.mk ".").leadsWithCurrent = true := (leadsWithCurrent_iff ".").2 (.inl rfl)
  have habs : (Path.mk ".").isAbsolute = false := by
    simp only [leadsWithCurrent, Bool.and_eq_true, Bool.not_eq_true'] at hlead
    exact hlead.1
  -- `.` has no part after its head, so its parent is the empty path
  have hparts : (Path.mk ".").parts = [] := by
    have hbody : (Path.mk ".").body = "" := by
      have hlen : (".": String).length = 1 := rfl
      simp [body, headText, habs, hlead, hlen]
    simp [parts, hbody]
  have hdir : (Path.mk ".").parent = some empty := by
    simp [parent, lastPart?, hparts, dropBlankTail, hlead]
  have hself : resolve (ofNames ["p"]) ⟨"."⟩ = ofNames ["p"] := by
    rw [resolve, normalize_ofNames_join hp habs, textComponents_current, List.foldl_nil]
    exact Lexical.toPath_root _
  have hcwd : resolve (ofNames ["p"]) empty = ofNames ["p"] := by
    rw [resolve, empty, normalize_ofNames_join hp rfl, textComponents_empty, List.foldl_nil]
    exact Lexical.toPath_root _
  have htarget : resolve (ofNames ["p"]) ⟨"b"⟩ = ofNames ["p", "b"] := by
    rw [resolve, ofNames_join_name hp hb]
    exact normalize_ofNames (by decide)
  have hway : relativeFrom (ofNames ["p"]) ⟨"."⟩ ⟨"b"⟩ = ⟨"b"⟩ := by
    have hcommon : commonPrefixLength ["p"] ["p", "b"] = 1 := by
      simp [commonPrefixLength]
    rw [relativeFrom, hdir, Option.getD_some, hcwd, htarget, relative_ofNames hp (by decide),
      hcommon]
    simp
  refine ⟨?_, hway, ?_⟩
  · have hup := parent_ofNames_append (show ∀ x ∈ ([] : List String) ++ ["p"], IsName x by decide)
    rw [List.nil_append] at hup
    rw [hself, hup]
  · rw [hway, htarget, ofNames_join_name (by decide) hb, List.nil_append,
      normalize_ofNames (by decide), Ne, ofNames_inj (by decide) (by decide)]
    decide

end Path

end ImportPath
