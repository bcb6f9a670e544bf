import ImportPath.Proofs.PathText

/-!
# Following a relative specifier back

The specifier written for a found file is the way from the directory of the current file to
the file (`Path.relative`), marked as local (`Specifier.toLocal`), with its extension
rewritten when the written one differs. This module follows such a specifier back from the
directory: joined to it and normalized, the way gives the file again
(`normalize_join_relative`), and the rewritten way gives the file with its own extension
rewritten (`normalize_join_applyFirst_relative`), as long as the way ends in the file's name,
that is, unless the file is the directory or one of its ancestors.

The argument is read on components. A normal directory joined with a relative text reads as
the directory's names followed by the components of the text (`normalize_ofNames_join`); the
way up is a run of `..`, each of which removes one name, and the way down is the rest of the
file's names (`normalize_join_up`). An extension rewrite only touches the part after the last
separator (`applyFirst_slash`), which the way and the file share.
-/

namespace ImportPath

/-! ## Common prefixes -/

namespace Path

variable {α : Type} [BEq α]

theorem commonPrefixLength_le_left : ∀ xs ys : List α, commonPrefixLength xs ys ≤ xs.length
  | [], _ => Nat.zero_le _
  | _ :: _, [] => Nat.zero_le _
  | a :: as, b :: bs => by
    unfold commonPrefixLength
    split
    · simpa using commonPrefixLength_le_left as bs
    · exact Nat.zero_le _

theorem commonPrefixLength_le_right : ∀ xs ys : List α, commonPrefixLength xs ys ≤ ys.length
  | [], _ => Nat.zero_le _
  | _ :: _, [] => Nat.zero_le _
  | a :: as, b :: bs => by
    unfold commonPrefixLength
    split
    · simpa using commonPrefixLength_le_right as bs
    · exact Nat.zero_le _

/-- Both lists agree up to their common prefix. -/
theorem take_commonPrefixLength [LawfulBEq α] :
    ∀ xs ys : List α, xs.take (commonPrefixLength xs ys) = ys.take (commonPrefixLength xs ys)
  | [], _ => rfl
  | _ :: _, [] => rfl
  | a :: as, b :: bs => by
    unfold commonPrefixLength
    split
    · rename_i hab
      rw [beq_iff_eq.1 hab, List.take_succ_cons, List.take_succ_cons,
        take_commonPrefixLength as bs]
    · rfl

/-- A common prefix as long as the second list means the second list is a prefix. -/
theorem prefix_of_commonPrefixLength_eq [LawfulBEq α] {xs ys : List α}
    (h : commonPrefixLength xs ys = ys.length) : ys <+: xs := by
  have htake := take_commonPrefixLength xs ys
  rw [h, List.take_length] at htake
  exact htake ▸ List.take_prefix _ _

theorem commonPrefixLength_self [LawfulBEq α] : ∀ xs : List α, commonPrefixLength xs xs = xs.length
  | [] => rfl
  | x :: xs => by simp [commonPrefixLength, commonPrefixLength_self xs]

theorem commonPrefixLength_map_name (xs ys : List String) :
    commonPrefixLength (xs.map Component.name) (ys.map Component.name) =
      commonPrefixLength xs ys := by
  induction xs generalizing ys with
  | nil => rfl
  | cons a as ih =>
    cases ys with
    | nil => rfl
    | cons b bs => simp [commonPrefixLength, ih]

/-! ## The way between normal paths -/

/-- The way between two normal paths: one `..` for each name of the directory after the
common prefix, then the rest of the file's names. -/
theorem relative_ofNames {d g : List String} (hd : ∀ n ∈ d, IsName n)
    (hg : ∀ n ∈ g, IsName n) :
    relative (ofNames d) (ofNames g) =
      ⟨"/".intercalate (List.replicate (d.length - commonPrefixLength d g) ".." ++
        g.drop (commonPrefixLength d g))⟩ := by
  have hcommon : commonPrefixLength (Component.root :: d.map .name) (.root :: g.map .name) =
      commonPrefixLength d g + 1 := by
    simp [commonPrefixLength, commonPrefixLength_map_name]
  -- both paths start at the root, so the common prefix is never empty
  simp only [relative, components_ofNames hd, components_ofNames hg, hcommon]
  simp [List.map_drop, Function.comp_def, Component.text]

/-- The way from the directory of a file to another file, when both are normal. -/
theorem relativeFrom_of_isNormal (cwd : Path) {file dir found : Path}
    (hdir : file.parent = some dir) (hdirn : dir.IsNormal) (hfound : found.IsNormal) :
    relativeFrom cwd file found = relative dir found := by
  simp [relativeFrom, hdir, hdirn.resolve_eq, hfound.resolve_eq]

end Path

/-! ## Local specifiers -/

namespace Specifier

/-- A local specifier starts with `./` or `../`. -/
theorem hasLocalPrefix_toLocal (s : String) : hasLocalPrefix (toLocal s) = true := by
  unfold toLocal
  split
  · simp [hasLocalPrefix, String.startsWith_string_iff]
  · split
    · assumption
    · simp [hasLocalPrefix, String.startsWith_string_iff]

/-- A local specifier starts with a dot. -/
theorem toList_toLocal (s : String) : ∃ rest, (toLocal s).toList = '.' :: rest := by
  have h := hasLocalPrefix_toLocal s
  simp only [hasLocalPrefix, String.startsWith_string_iff, Bool.or_eq_true] at h
  rcases h with ⟨t, ht⟩ | ⟨t, ht⟩
  · exact ⟨'/' :: t, by simpa using ht.symm⟩
  · exact ⟨'.' :: '/' :: t, by simpa using ht.symm⟩

/-- A local specifier is never an absolute path text. -/
theorem toLocal_not_absolute (s : String) : (Path.mk (toLocal s)).isAbsolute = false := by
  obtain ⟨rest, hrest⟩ := toList_toLocal s
  simp [Path.isAbsolute, hrest]

/-- Marking a text as local adds no component. -/
theorem textComponents_toLocal (s : String) : textComponents (toLocal s) = textComponents s := by
  have hdot : ("./" : String) = "." ++ "/" := by decide
  unfold toLocal
  split
  · rename_i h
    have hdot' : ("./" : String) = "." ++ "/" ++ "" := by decide
    rw [String.isEmpty_iff.1 h, hdot', textComponents_slash_append, textComponents_current,
      List.nil_append]
  · split
    · rfl
    · rw [hdot, textComponents_slash_append, textComponents_current, List.nil_append]

end Specifier

/-! ## Extension rewrites act on the last part -/

namespace ExtensionRewrite

/-- The last segment of a text is the last segment of what follows its last separator. -/
theorem lastSegment_append_slash (a b : List Char) :
    Specifier.lastSegment (a ++ '/' :: b) = Specifier.lastSegment b := by
  unfold Specifier.lastSegment
  rw [List.reverse_append, List.reverse_cons, List.append_assoc, List.takeWhile_append]
  split
  · rename_i hall
    rw [List.singleton_append, List.takeWhile_cons_of_neg (by simp), List.append_nil,
      (List.takeWhile_prefix _).eq_of_length hall]
  · rfl

theorem lastSegment_suffix (cs : List Char) : Specifier.lastSegment cs <:+ cs := by
  rw [Specifier.lastSegment, ← List.reverse_prefix, List.reverse_reverse]
  exact List.takeWhile_prefix _

/-- A rule that fits a name is no longer than it. -/
theorem fits_length_le {r : ExtensionRewrite} {name : String} (h : r.fits name = true) :
    r.source.length ≤ name.length := by
  simp only [fits, Bool.and_eq_true, List.isSuffixOf_iff_suffix] at h
  have hle := h.2.length_le
  rwa [String.length_toList, String.length_toList] at hle

/-- Rewriting an extension only touches the part after the last separator. -/
theorem applyFirst_slash (rules : List ExtensionRewrite) (a b : String) :
    applyFirst rules (a ++ "/" ++ b) = a ++ "/" ++ applyFirst rules b := by
  have hname : String.ofList (Specifier.lastSegment (a ++ "/" ++ b).toList) =
      String.ofList (Specifier.lastSegment b.toList) := by
    simp [lastSegment_append_slash]
  unfold applyFirst
  simp only [hname]
  split
  · rename_i r hr
    -- the rule's source ends the last segment, which ends `b`
    have hfit : r.fits (String.ofList (Specifier.lastSegment b.toList)) = true := by
      simpa using List.find?_some hr
    have hle : r.source.length ≤ b.length := by
      have h := fits_length_le hfit
      have hseg := (lastSegment_suffix b.toList).length_le
      simp only [String.length_ofList] at h
      simp only [String.length_toList] at hseg
      omega
    have htext : (a ++ "/" ++ b).toList = (a.toList ++ ['/']) ++ b.toList := by simp
    have hlen : (a ++ "/" ++ b).length - r.source.length =
        (a.toList ++ ['/']).length + (b.length - r.source.length) := by
      have hslash : ("/" : String).length = 1 := by decide
      simp only [String.length_append, hslash, List.length_append, String.length_toList,
        List.length_singleton]
      omega
    rw [← String.toList_inj, htext, hlen, List.take_length_add_append]
    simp
  · rfl

/-- Rewriting the extension of joined parts rewrites the last part. -/
theorem applyFirst_intercalate_append (rules : List ExtensionRewrite) (xs : List String)
    (y : String) :
    applyFirst rules ("/".intercalate (xs ++ [y])) = "/".intercalate (xs ++ [applyFirst rules y]) := by
  by_cases hxs : xs = []
  · simp [hxs]
  · rw [String.intercalate_append_of_ne_nil hxs (by simp), applyFirst_slash,
      String.intercalate_append_of_ne_nil hxs (by simp), String.intercalate_singleton,
      String.intercalate_singleton]

end ExtensionRewrite

/-! ## Reading joined texts -/

theorem textComponents_intercalate_append (xs ys : List String) :
    textComponents ("/".intercalate (xs ++ ys)) =
      textComponents ("/".intercalate xs) ++ textComponents ("/".intercalate ys) := by
  by_cases hxs : xs = []
  · simp [hxs, textComponents_empty]
  by_cases hys : ys = []
  · simp [hys, textComponents_empty]
  rw [String.intercalate_append_of_ne_nil hxs hys, textComponents_slash_append]

theorem textComponents_replicate_parent (m : Nat) :
    textComponents ("/".intercalate (List.replicate m "..")) = List.replicate m .parent := by
  rw [textComponents_intercalate (fun s hs => by simp [List.eq_of_mem_replicate hs])]
  exact List.filterMap_replicate_of_some rfl

/-- The last name of a list of names, after the separator. -/
theorem intercalate_append_singleton (xs : List String) (y : String) :
    "/".intercalate (xs ++ [y]) =
      (if xs = [] then "" else "/".intercalate xs ++ "/") ++ y := by
  by_cases hxs : xs = []
  · simp [hxs]
  · rw [String.intercalate_append_of_ne_nil hxs (by simp), if_neg hxs,
      String.intercalate_singleton]

namespace Path

/-- A normal path of at least one name ends in a character of its last name. -/
theorem getLast_ofNames_ne_slash {d : List String} (hd : ∀ n ∈ d, IsName n) (hne : d ≠ []) :
    (ofNames d).text.toList.getLast? ≠ some '/' := by
  obtain ⟨d0, n, rfl⟩ := (List.eq_nil_or_concat d).resolve_left hne
  rw [List.concat_eq_append] at hd ⊢
  have hn : IsName n := hd n (by simp)
  have hnl : n.toList ≠ [] := by simpa using hn.ne_empty
  intro h
  rw [ofNames, intercalate_append_singleton, String.toList_append, String.toList_append,
    ← List.append_assoc, List.getLast?_append_of_ne_nil _ hnl] at h
  exact hn.no_slash (List.mem_of_getLast? h)

/-- A relative text joined to a normal directory reads as the directory's names followed by
the components of the text. -/
theorem components_ofNames_join {d : List String} (hd : ∀ n ∈ d, IsName n) {x : String}
    (hx : (Path.mk x).isAbsolute = false) :
    ((ofNames d).join ⟨x⟩).components = .root :: (d.map .name ++ textComponents x) := by
  unfold join
  rw [if_neg (by simp [hx])]
  by_cases hne : d = []
  · -- the root directory already ends with its separator
    subst hne
    have hroot : (ofNames []).text = "/" := by simp [ofNames]
    rw [if_pos (by simp [hroot]), hroot, components_root_append, List.map_nil, List.nil_append]
  · -- any other normal directory ends in a name, and a separator is put after it
    have hlast := getLast_ofNames_ne_slash hd hne
    have hcond : ((ofNames d).text.isEmpty || (ofNames d).text.toList.getLast? == some '/') =
        false := by
      simpa [ofNames] using hlast
    have htext : (ofNames d).text ++ "/" ++ x = "/" ++ ("/".intercalate d ++ "/" ++ x) := by
      simp [ofNames, String.append_assoc]
    rw [hcond, if_neg Bool.false_ne_true, htext, components_root_append,
      textComponents_slash_append, textComponents_intercalate_names hd]

end Path

/-! ## Normal forms read component by component -/

namespace Path

open Lexical in
theorem normalize_root_append (s : String) :
    (Path.mk ("/" ++ s)).normalize = ((textComponents s).foldl step ⟨true, []⟩).toPath := by
  rw [normalize, components_root_append]
  rfl

open Lexical in
theorem normalize_ofNames_join {d : List String} (hd : ∀ n ∈ d, IsName n) {x : String}
    (hx : (Path.mk x).isAbsolute = false) :
    ((ofNames d).join ⟨x⟩).normalize = ((textComponents x).foldl step ⟨true, d.reverse⟩).toPath := by
  rw [normalize, components_ofNames_join hd hx, ofComponents, List.foldl_cons, List.foldl_append,
    foldl_step_names]
  simp [step]

/-- Going up `m` directories from a normal directory and then down the parts `ys` leads where
the parts lead from the `m`-th ancestor. -/
theorem normalize_join_up {d : List String} (hd : ∀ n ∈ d, IsName n) (m : Nat)
    (ys : List String) :
    ((ofNames d).join ⟨Specifier.toLocal ("/".intercalate (List.replicate m ".." ++ ys))⟩).normalize =
      (Path.mk ("/" ++ "/".intercalate (d.take (d.length - m) ++ ys))).normalize := by
  have htake : ∀ n ∈ d.take (d.length - m), IsName n := fun n hn => hd n (List.mem_of_mem_take hn)
  rw [normalize_ofNames_join hd (Specifier.toLocal_not_absolute _), normalize_root_append,
    Specifier.textComponents_toLocal, textComponents_intercalate_append,
    textComponents_replicate_parent, List.foldl_append,
    Lexical.foldl_step_parents m (fun n hn => (hd n (List.mem_reverse.1 hn)).ne_parent),
    textComponents_intercalate_append, textComponents_intercalate_names htake, List.foldl_append,
    Lexical.foldl_step_names, List.drop_reverse, List.append_nil]

/-- The way from a normal directory to a normal file leads back to the file. -/
theorem normalize_join_relative {d g : List String} (hd : ∀ n ∈ d, IsName n)
    (hg : ∀ n ∈ g, IsName n) :
    ((ofNames d).join ⟨Specifier.toLocal (relative (ofNames d) (ofNames g)).text⟩).normalize =
      ofNames g := by
  have hk := commonPrefixLength_le_left d g
  rw [relative_ofNames hd hg, normalize_join_up hd,
    Nat.sub_sub_self hk, take_commonPrefixLength, List.take_append_drop]
  exact normalize_ofNames hg

/-- The local specifier of the way from the current file's normal directory to a normal path
leads back to that path. -/
theorem normalize_join_relativeFrom (cwd : Path) {file dir target : Path}
    (hdir : file.parent = some dir) (hdirn : dir.IsNormal) (ht : target.IsNormal) :
    (dir.join ⟨Specifier.toLocal (relativeFrom cwd file target).text⟩).normalize = target := by
  obtain ⟨d, hd, rfl⟩ := hdirn
  obtain ⟨g, hg, rfl⟩ := ht
  rw [relativeFrom_of_isNormal cwd hdir ⟨d, hd, rfl⟩ ⟨g, hg, rfl⟩]
  exact normalize_join_relative hd hg

/-- The rewritten way from a normal directory to a normal file leads to the file with its
extension rewritten, when the way ends in the file's name. -/
theorem normalize_join_applyFirst_relative {d g : List String} (hd : ∀ n ∈ d, IsName n)
    (hg : ∀ n ∈ g, IsName n) (hbelow : commonPrefixLength d g < g.length)
    (rules : List ExtensionRewrite) :
    ((ofNames d).join ⟨Specifier.toLocal
        (ExtensionRewrite.applyFirst rules (relative (ofNames d) (ofNames g)).text)⟩).normalize =
      (Path.mk (ExtensionRewrite.applyFirst rules (ofNames g).text)).normalize := by
  set k := commonPrefixLength d g
  have hk := commonPrefixLength_le_left d g
  -- the way down is not empty: it ends in the file's last name `n`
  obtain ⟨ys, n, hys⟩ := (List.eq_nil_or_concat (g.drop k)).resolve_left (by simpa using hbelow)
  rw [List.concat_eq_append] at hys
  have hg' : g = g.take k ++ ys ++ [n] := by
    rw [List.append_assoc, ← hys, List.take_append_drop]
  have hfile : (ofNames g).text = "" ++ "/" ++ "/".intercalate (g.take k ++ ys ++ [n]) := by
    rw [String.empty_append, ← hg']
    rfl
  rw [relative_ofNames hd hg, hys, ← List.append_assoc,
    ExtensionRewrite.applyFirst_intercalate_append, List.append_assoc, normalize_join_up hd,
    Nat.sub_sub_self hk, take_commonPrefixLength, hfile, ExtensionRewrite.applyFirst_slash,
    ExtensionRewrite.applyFirst_intercalate_append, String.empty_append, List.append_assoc]

end Path

end ImportPath
