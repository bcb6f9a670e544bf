import ImportPath.Proofs.Relocation
import ImportPath.Proofs.PackageName
import ImportPath.Proofs.NearestMarker

/-!
# Files found by the locator

On a file tree every answer of the locator is a regular file, and therefore an absolute
path: a relative path names nothing on a tree. From an absolute normalized directory, with
extensions free of `/`, the answer is normalized too, except for one kind of specifier.

A package is looked up as `node_modules/NAME` in the directory and in each of its ancestors.
A scoped name `@scope/pkg` keeps its slash, and the package directory is joined as it is
written, never normalized. When the part after the slash is `.` or `..` (the specifier
`@scope/..`), that directory is a directory of the tree, and its index file is answered as
`node_modules/@scope/../index.js` (`scoped_parent_index_not_normalized`). Every other answer
is normalized (`located_file_normalized`).

The proof follows where the locator looks. Path-like specifiers start from a normalized path
(`Locate.node_isNormal`). A package directory is a normal path, or a normal path spelled with
a trailing `/` (the scoped name `@scope/`), or it is left behind for a subpath, which is
normalized. A path with a trailing `/`, or whose last part is `.` or `..`, is never a file on
a tree (`FileTree.walk_eq_file`), so an extension appended to a directory spelled with `/`
gives a normal file or nothing.
-/

namespace ImportPath

/-! ## Paths that name directories -/

namespace FileTree

variable (t : FileTree)

/-- A walk ends at a file only when its end need not be a directory, and when its last part
is a name: a last `.` or `..` stays at a directory. -/
theorem walk_eq_file (followLast wantDir : Bool) :
    ∀ (fuel links : Nat) (dir cs p : List String) (text : String),
      t.walk followLast wantDir fuel links dir cs = .ok (p, .file text) →
      wantDir = false ∧ ∃ pre c, cs = pre ++ [c] ∧ c ≠ "." ∧ c ≠ ".." := by
  intro fuel
  induction fuel with
  | zero => intro links dir cs p text h; simp [walk] at h
  | succ fuel ih =>
    intro links dir cs p text h
    cases cs with
    | nil => simp [walk] at h
    | cons c cs =>
      -- the rest after `c` ends like the whole list once it is not empty
      have hlast : ∀ {rest : List String}, (∃ pre c', rest = pre ++ [c'] ∧ c' ≠ "." ∧ c' ≠ "..") →
          (rest = cs ∨ (rest ≠ [] ∧ rest.getLast? = cs.getLast?)) →
          ∃ pre c', c :: cs = pre ++ [c'] ∧ c' ≠ "." ∧ c' ≠ ".." := by
        rintro rest ⟨pre, c', rfl, hc'⟩ (hrest | ⟨-, hrest⟩)
        · exact ⟨c :: pre, c', by rw [← hrest]; rfl, hc'⟩
        · obtain ⟨pre', hcs⟩ : ∃ pre', cs = pre' ++ [c'] := by
            rw [List.getLast?_concat] at hrest
            exact ⟨cs.dropLast, (List.dropLast_append_getLast? _ hrest.symm).symm⟩
          exact ⟨c :: pre', c', by rw [hcs]; rfl, hc'⟩
      unfold walk at h
      split at h
      · obtain ⟨hwant, hends⟩ := ih _ _ _ p text h
        exact ⟨hwant, hlast hends (.inl rfl)⟩
      · split at h
        · obtain ⟨hwant, hends⟩ := ih _ _ _ p text h
          exact ⟨hwant, hlast hends (.inl rfl)⟩
        · rename_i hcur hpar
          split at h
          · cases h
          · dsimp only at h
            split at h
            · cases h
            · obtain ⟨hwant, hends⟩ := ih _ _ _ p text h
              exact ⟨hwant, hlast hends (.inl rfl)⟩
            · -- a file ends the walk only as its last part
              split at h
              · rename_i hend
                simp only [Bool.and_eq_true, List.isEmpty_iff, Bool.not_eq_eq_eq_not,
                  Bool.not_true] at hend
                exact ⟨hend.2, [], c, by rw [hend.1]; rfl, hcur, hpar⟩
              · cases h
            · split at h
              · cases h
              · split at h
                · cases h
                · split at h
                  · cases h
                  · -- a link is followed, and the walk goes on through its target
                    rename_i target _ _ _ _
                    obtain ⟨hwant, hends⟩ := ih _ _ _ p text h
                    refine ⟨hwant, ?_⟩
                    cases cs with
                    | nil => exact ⟨[], c, rfl, hcur, hpar⟩
                    | cons c₁ cs₁ =>
                      refine hlast hends (.inr ⟨by split <;> simp, ?_⟩)
                      split
                      · rw [List.getLast?_append_of_ne_nil _ (List.cons_ne_nil _ _),
                          List.getLast?_cons_cons]
                      · rw [List.getLast?_append_of_ne_nil _ (List.cons_ne_nil _ _)]

/-- A path without NUL, starting at the root and short enough is looked up by walking its
names from the root. -/
theorem lookup_eq_walk (followLast : Bool) {p : Path}
    (hnul : p.text.contains (Char.ofNat 0) = false) (habs : p.text.startsWith "/" = true)
    (hsize : p.text.utf8ByteSize < 4096) :
    t.lookup followLast p =
      t.walk followLast (p.text.endsWith "/" && names p.text != [])
        (t.walkFuel (names p.text).length) 0 [] (names p.text) := by
  simp only [lookup, hnul, habs, Bool.not_true, Bool.false_eq_true, if_false,
    Nat.not_le.2 hsize]

theorem contains_nul_eq_false {s : String} (h : Char.ofNat 0 ∉ s.toList) :
    s.contains (Char.ofNat 0) = false := by
  simpa using h

/-- A lookup that succeeds walks the names of the path from the root. -/
theorem walk_of_lookup {followLast : Bool} {p : Path} {v : List String × TreeEntry}
    (h : t.lookup followLast p = .ok v) :
    t.walk followLast (p.text.endsWith "/" && names p.text != [])
      (t.walkFuel (names p.text).length) 0 [] (names p.text) = .ok v := by
  unfold lookup at h
  split at h
  · cases h
  · split at h
    · cases h
    · split at h
      · cases h
      · exact h

/-- Names after a separator follow the names before it. -/
theorem names_append_slash (a b : String) : names (a ++ "/" ++ b) = names a ++ names b := by
  have h : (a ++ "/" ++ b).toList = a.toList ++ '/' :: b.toList := by simp
  simp only [names, splitOn_slash, h, List.splitOn_append_cons_self, List.map_append,
    List.filter_append]

theorem names_current : names "." = ["."] := by
  simp only [names, splitOn_slash]
  decide

theorem names_parent : names ".." = [".."] := by
  simp only [names, splitOn_slash]
  decide

/-- A path spelled with a trailing `/` is never a file. -/
theorem view_isFile_slash (a : String) : t.view.isFile ⟨a ++ "/"⟩ = false := by
  rw [view_isFile_eq]
  split
  · rename_i q text hlook
    have hend : (a ++ "/").endsWith "/" = true := by
      simp only [← String.endsWith_toSlice, String.Slice.endsWith_string_iff,
        String.copy_toSlice]
      exact ⟨a.toList, by simp⟩
    obtain ⟨hwant, pre, c, hnames, -⟩ := t.walk_eq_file _ _ _ _ _ _ _ _ (t.walk_of_lookup hlook)
    simp only [hend, Bool.true_and, bne_eq_false_iff_eq] at hwant
    rw [hwant] at hnames
    exact absurd hnames.symm (List.append_ne_nil_of_right_ne_nil _ (List.cons_ne_nil _ _))
  · rfl

/-- A path whose last part is `.` or `..` is never a file. -/
theorem view_isFile_dots (a : String) {d : String} (hd : d = "." ∨ d = "..") :
    t.view.isFile ⟨a ++ "/" ++ d⟩ = false := by
  rw [view_isFile_eq]
  split
  · rename_i q text hlook
    obtain ⟨-, pre, c, hnames, hcur, hpar⟩ :=
      t.walk_eq_file _ _ _ _ _ _ _ _ (t.walk_of_lookup hlook)
    have hlast : names (a ++ "/" ++ d) = names a ++ [d] := by
      rw [names_append_slash]
      rcases hd with rfl | rfl
      exacts [congrArg _ names_current, congrArg _ names_parent]
    rw [hlast] at hnames
    have hcd : d = c := List.singleton_inj.1 (List.append_inj' hnames rfl).2
    rcases hd with rfl | rfl
    exacts [(hcur hcd.symm).elim, (hpar hcd.symm).elim]
  · rfl

end FileTree

/-! ## Directories spelled with a trailing `/` -/

namespace Path

/-- A text after a normal path of at least one name and a separator is its next name. -/
theorem ofNames_text_slash_append {e : List String} (he : e ≠ []) (y : String) :
    (⟨(ofNames e).text ++ "/" ++ y⟩ : Path) = ofNames (e ++ [y]) := by
  simp [ofNames, intercalate_append_singleton, he, String.append_assoc]

/-- A relative path joined to a path that ends with a separator is written right after it. -/
theorem join_slash (a x : String) (hx : (Path.mk x).isAbsolute = false) :
    (Path.mk (a ++ "/")).join ⟨x⟩ = ⟨a ++ "/" ++ x⟩ := by
  simp [join, hx]

/-- A text that starts with a name is relative. -/
theorem isAbsolute_name_append {n : String} (hn : IsName n) (rest : String) :
    (Path.mk (n ++ rest)).isAbsolute = false := by
  rw [Bool.eq_false_iff]
  intro h
  simp only [isAbsolute, String.startsWith_string_iff, String.toList_append] at h
  -- the first character of a name is not the separator
  obtain ⟨c, cs, hc⟩ := List.exists_cons_of_ne_nil (by simpa using hn.ne_empty : n.toList ≠ [])
  rw [hc, show "/".toList = ['/'] from rfl, List.cons_append, List.cons_prefix_cons] at h
  exact hn.no_slash (by rw [hc, ← h.1]; simp)

/-- A relative text that starts with a name is joined after the name. -/
theorem join_append_text (p : Path) {n : String} (hn : IsName n) (rest : String) :
    p.join ⟨n ++ rest⟩ = ⟨(p.join ⟨n⟩).text ++ rest⟩ := by
  have hn' : (Path.mk n).isAbsolute = false := by
    simpa using isAbsolute_name_append hn ""
  simp only [join, isAbsolute_name_append hn rest, hn', Bool.false_eq_true, if_false]
  split <;> simp [String.append_assoc]

end Path

namespace Locate

variable (t : FileTree) {exts : List String} (hext : ∀ e ∈ exts, '/' ∉ e.toList)
include hext

variable {e : List String} (hnames : ∀ n ∈ e, IsName n) (hne : e ≠ [])
include hnames hne

/-- A file found from a directory spelled with `/` and an extension is a normal name below
it: the extension alone, when it is a name. -/
theorem resolveFile_slash_isNormal {found : Path}
    (h : resolveFile t.view ⟨(Path.ofNames e).text ++ "/"⟩ exts = some found) :
    found.IsNormal := by
  obtain ⟨hfile, rfl | ⟨x, hx, rfl⟩⟩ := resolveFile_eq_some t.view exts h
  · exact absurd hfile (by rw [t.view_isFile_slash]; simp)
  · -- the extension is a name, else it spells the directory itself
    by_cases hname : IsName x
    · refine ⟨e ++ [x], fun n hn => ?_, ?_⟩
      · rcases List.mem_append.1 hn with hn | hn
        · exact hnames n hn
        · exact (List.mem_singleton.1 hn) ▸ hname
      · rw [← Path.ofNames_text_slash_append hne]
        rfl
    · have hspell : withExtension ⟨(Path.ofNames e).text ++ "/"⟩ x =
          ⟨(Path.ofNames e).text ++ "/" ++ x⟩ := rfl
      rw [hspell] at hfile
      have hx' : x = "" ∨ x = "." ∨ x = ".." := by
        by_contra hnot
        simp only [not_or] at hnot
        exact hname ⟨hnot.1, hnot.2.1, hnot.2.2, hext x hx⟩
      rcases hx' with rfl | hdots
      · rw [String.append_empty, t.view_isFile_slash] at hfile
        cases hfile
      · rw [t.view_isFile_dots _ hdots] at hfile
        cases hfile

/-- The index file of a directory spelled with `/` is a normal name below it. -/
theorem resolveIndex_slash_isNormal {found : Path}
    (h : resolveIndex t.view ⟨(Path.ofNames e).text ++ "/"⟩ exts = some found) :
    found.IsNormal := by
  obtain ⟨-, x, hx, rfl⟩ := resolveIndex_eq_some t.view exts h
  have hidx := IsName.index (hext x hx)
  refine ⟨e ++ ["index" ++ x], fun n hn => ?_, ?_⟩
  · rcases List.mem_append.1 hn with hn | hn
    · exact hnames n hn
    · exact (List.mem_singleton.1 hn) ▸ hidx
  · rw [Path.join_slash _ _ (by simpa using Path.isAbsolute_name_append hidx ""),
      Path.ofNames_text_slash_append hne]

/-- Whatever a directory spelled with `/` stands for is found as a normal path. -/
theorem resolveFileOrDir_slash_isNormal {found : Path}
    (h : resolveFileOrDir t.view ⟨(Path.ofNames e).text ++ "/"⟩ exts = some found) :
    found.IsNormal := by
  have habs : (Path.mk ((Path.ofNames e).text ++ "/")).isAbsolute = true :=
    Path.isAbsolute_append _ (ofNames_isAbsolute e)
  rcases resolveFileOrDir_eq_some t.view exts h with h | h
  · exact resolveFile_slash_isNormal t hext hnames hne h
  rcases resolveDirectory_eq_some t.view exts h with ⟨main, h | h⟩ | h
  · exact resolveFile_isNormal t hext (Path.normalize_isNormal (Path.join_isAbsolute _ habs)) h
  · exact resolveIndex_isNormal t hext (Path.normalize_isNormal (Path.join_isAbsolute _ habs)) h
  · exact resolveIndex_slash_isNormal t hext hnames hne h

end Locate

/-! ## Package names -/

namespace Locate

/-- A specifier the split leaves whole holds no separator, or it is scoped and holds one. -/
theorem splitBare_of_snd_none {x : String} (h : (splitBare x).2 = none) :
    (splitBare x).1 = x ∧ ('/' ∉ x.toList ∨
      (x.startsWith "@" = true ∧
        ∃ sc p, x = sc ++ "/" ++ p ∧ '/' ∉ sc.toList ∧ '/' ∉ p.toList)) := by
  -- without a cut the name is all of the specifier, with fewer separators than a cut needs
  obtain ⟨hname, hcount⟩ : (splitBare x).1 = x ∧
      x.toList.count '/' < (if x.startsWith "@" then 2 else 1) := by
    have hcut := splitBare_cutsAtSlash x
    rw [← Prod.eta (splitBare x), h] at hcut
    exact hcut
  refine ⟨hname, ?_⟩
  by_cases hmem : '/' ∈ x.toList
  · obtain ⟨a, b, hs, ha⟩ := exists_first_slash hmem
    rw [hs, count_first_slash ha] at hcount
    -- one separator is counted, so the specifier is scoped and the rest holds none
    cases hat : x.startsWith "@"
    · simp [hat] at hcount
    · rw [hat, if_pos rfl] at hcount
      have hb : '/' ∉ b := List.count_eq_zero.1 (by omega)
      refine .inr ⟨rfl, String.ofList a, String.ofList b, ?_, by simpa using ha, by simpa using hb⟩
      rw [← String.toList_inj, hs]
      simp
  · exact .inl hmem

/-- A scoped specifier whose package part is `.` or `..`, such as `@scope/..`. -/
def IsDotScoped (x : String) : Prop :=
  x.startsWith "@" = true ∧ ∃ sc, '/' ∉ sc.toList ∧ (x = sc ++ "/." ∨ x = sc ++ "/..")

/-- A part before a separator of a scoped name starts with `@`, so it is a name. -/
theorem isName_scope {sc p : String} (hat : (sc ++ "/" ++ p).startsWith "@" = true)
    (hsc : '/' ∉ sc.toList) : IsName sc := by
  have hhead : (sc ++ "/" ++ p).toList.head? = some '@' := by
    rw [String.startsWith_string_iff] at hat
    obtain ⟨rest, hrest⟩ := hat
    rw [← hrest]
    rfl
  refine ⟨fun h => ?_, fun h => ?_, fun h => ?_, hsc⟩ <;> subst h <;> simp at hhead

/-- The package directory of a bare specifier without a subpath, below a normal directory:
a normal path, or for a scoped name that ends in `/` a normal path spelled with `/`, unless
the package part is `.` or `..`. -/
theorem packageDir_cases {ds : List String} (hds : ∀ n ∈ ds, IsName n) {x : String}
    (hx : x ≠ "") (hbare : isPathLike x = false) (hdot : ¬IsDotScoped x)
    (hsub : (splitBare x).2 = none) :
    (((Path.ofNames ds).join ⟨"node_modules"⟩).join ⟨(splitBare x).1⟩).IsNormal ∨
      ∃ e, e ≠ [] ∧ (∀ n ∈ e, IsName n) ∧
        ((Path.ofNames ds).join ⟨"node_modules"⟩).join ⟨(splitBare x).1⟩ =
          ⟨(Path.ofNames e).text ++ "/"⟩ := by
  obtain ⟨hname, hcases⟩ := splitBare_of_snd_none hsub
  have hmods : ∀ n ∈ ds ++ ["node_modules"], IsName n := by
    intro n hn
    rcases List.mem_append.1 hn with hn | hn
    · exact hds n hn
    · rw [List.mem_singleton.1 hn]
      decide
  rw [hname, Path.ofNames_join_name hds (by decide)]
  rcases hcases with hnoslash | ⟨hat, sc, p, rfl, hsc, hp⟩
  · -- a name without separator: `.` and `..` are paths, not names
    have hxname : IsName x :=
      ⟨hx, fun h => by simp [h, isPathLike] at hbare, fun h => by simp [h, isPathLike] at hbare,
        hnoslash⟩
    refine .inl ⟨_, fun n hn => ?_, Path.ofNames_join_name hmods hxname⟩
    rcases List.mem_append.1 hn with hn | hn
    · exact hmods n hn
    · exact (List.mem_singleton.1 hn) ▸ hxname
  · -- a scoped name `sc/p` goes one more level down, to `p`
    have hscname := isName_scope hat hsc
    have hdeep : ∀ n ∈ ds ++ ["node_modules"] ++ [sc], IsName n := by
      intro n hn
      rcases List.mem_append.1 hn with hn | hn
      · exact hmods n hn
      · exact (List.mem_singleton.1 hn) ▸ hscname
    rw [String.append_assoc, Path.join_append_text _ hscname, Path.ofNames_join_name hmods hscname]
    by_cases hpe : p = ""
    · subst hpe
      exact .inr ⟨_, by simp, hdeep, by rw [String.append_empty]⟩
    · have hpname : IsName p :=
        ⟨hpe, fun h => hdot ⟨hat, sc, hsc, .inl (by rw [h, String.append_assoc]; rfl)⟩,
          fun h => hdot ⟨hat, sc, hsc, .inr (by rw [h, String.append_assoc]; rfl)⟩, hp⟩
      refine .inl ⟨_, fun n hn => ?_, by
        rw [← String.append_assoc, Path.ofNames_text_slash_append (by simp)]⟩
      rcases List.mem_append.1 hn with hn | hn
      · exact hdeep n hn
      · exact (List.mem_singleton.1 hn) ▸ hpname

end Locate

/-! ## The walk up through `node_modules` -/

namespace Locate

theorem resolveBare_eq (fs : FileSystem) (x : String) (baseDir : Path) (exts : List String) :
    resolveBare fs x baseDir exts =
      resolveBareFrom fs (splitBare x).1 (splitBare x).2 exts (baseDir.text.length + 2) baseDir :=
  rfl

/-- What the walk finds in one directory: the package `name` in its `node_modules`, or the
subpath `sub` of it, when the package directory exists. -/
def packageIn (fs : FileSystem) (name : String) (sub : Option String) (exts : List String)
    (dir : Path) : Option Path :=
  let pkgDir := (dir.join ⟨"node_modules"⟩).join ⟨name⟩
  if fs.isDir pkgDir then
    resolveFileOrDir fs (match sub with
      | some s => (pkgDir.join ⟨s⟩).normalize
      | none => pkgDir) exts
  else none

section Walk

variable (fs : FileSystem) (name : String) (sub : Option String) (exts : List String)

/-- One step of the walk: the package of this directory, else the walk from the parent. -/
theorem resolveBareFrom_succ (fuel : Nat) (dir : Path) :
    resolveBareFrom fs name sub exts (fuel + 1) dir =
      (packageIn fs name sub exts dir).or (dir.parent.bind (resolveBareFrom fs name sub exts fuel)) := by
  rw [resolveBareFrom.eq_def]
  dsimp only
  -- the walk's look in the directory is `packageIn`, spelled inline
  split <;> rename_i f hfound
  · rw [show packageIn fs name sub exts dir = some f from hfound, Option.some_or]
  · rw [show packageIn fs name sub exts dir = none from hfound, Option.none_or]
    cases dir.parent <;> rfl

/-- With a budget no smaller than the chain of ancestors, the walk answers the package of the
first directory of the chain that has one. -/
theorem resolveBareFrom_eq_findSome? :
    ∀ (fuel : Nat) (dir : Path), dir.ancestors.length ≤ fuel →
      resolveBareFrom fs name sub exts fuel dir = dir.ancestors.findSome? (packageIn fs name sub exts)
  | 0, dir, hfuel => by
    rw [Path.ancestors] at hfuel
    simp at hfuel
  | fuel + 1, dir, hfuel => by
    rw [resolveBareFrom_succ]
    cases hup : dir.parent with
    | none =>
      rw [Path.ancestors_of_parent_eq_none hup, List.findSome?_singleton]
      exact Option.or_none
    | some up =>
      rw [Path.ancestors_of_parent_eq_some hup, List.length_cons] at hfuel
      rw [Path.ancestors_of_parent_eq_some hup, List.findSome?_cons, Option.bind_some,
        resolveBareFrom_eq_findSome? fuel up (by omega)]
      cases packageIn fs name sub exts dir <;> rfl

end Walk

/-- The budget of the walk from a base directory covers its whole chain of ancestors: a bare
specifier is answered with the package of the nearest ancestor that has it. -/
theorem resolveBare_eq_findSome? (fs : FileSystem) (x : String) (baseDir : Path)
    (exts : List String) :
    resolveBare fs x baseDir exts =
      baseDir.ancestors.findSome? (packageIn fs (splitBare x).1 (splitBare x).2 exts) := by
  rw [resolveBare_eq]
  exact resolveBareFrom_eq_findSome? fs _ _ exts _ baseDir
    (by have := baseDir.length_ancestors_le; omega)

/-- The walk for a package always ends, and it answers the nearest directory that holds it:
`found` exactly when some ancestor of the base directory gives `found` and no nearer one gives
anything; nothing exactly when no ancestor holds the package. -/
theorem resolveBare_nearest_package (fs : FileSystem) (x : String) (baseDir : Path)
    (exts : List String) :
    (∀ found, resolveBare fs x baseDir exts = some found ↔
      ∃ nearer d farther, baseDir.ancestors = nearer ++ d :: farther ∧
        packageIn fs (splitBare x).1 (splitBare x).2 exts d = some found ∧
        ∀ e ∈ nearer, packageIn fs (splitBare x).1 (splitBare x).2 exts e = none) ∧
    (resolveBare fs x baseDir exts = none ↔
      ∀ e ∈ baseDir.ancestors, packageIn fs (splitBare x).1 (splitBare x).2 exts e = none) := by
  rw [resolveBare_eq_findSome?]
  exact ⟨fun _ => List.findSome?_eq_some_iff, List.findSome?_eq_none_iff⟩

/-- A package is found in `node_modules` of the start directory or of one of its ancestors:
of a directory that has every property the start has and that parents keep. -/
theorem resolveBareFrom_eq_some (fs : FileSystem) (name : String) (sub : Option String)
    (exts : List String) (P : Path → Prop) (hstep : ∀ d up, P d → d.parent = some up → P up) :
    ∀ (fuel : Nat) {dir found : Path}, P dir →
      resolveBareFrom fs name sub exts fuel dir = some found →
      ∃ d, P d ∧ resolveFileOrDir fs
        (match sub with
          | some s => (((d.join ⟨"node_modules"⟩).join ⟨name⟩).join ⟨s⟩).normalize
          | none => (d.join ⟨"node_modules"⟩).join ⟨name⟩) exts = some found
  | 0, _, _, _, h => by cases h
  | fuel + 1, dir, found, hdir, h => by
    unfold resolveBareFrom at h
    dsimp only at h
    split at h
    · -- found in this directory
      rename_i f hfound
      cases h
      split at hfound
      · exact ⟨dir, hdir, hfound⟩
      · cases hfound
    · -- else looked for from the parent on
      split at h
      · rename_i up hup
        exact resolveBareFrom_eq_some fs name sub exts P hstep fuel (hstep dir up hdir hup) h
      · cases h

end Locate

/-! ## Every answer -/

namespace FileTree

variable (t : FileTree)

theorem view_isFile_isAbsolute {p : Path} (h : t.view.isFile p = true) : p.isAbsolute = true := by
  by_contra habs
  obtain ⟨err, herr⟩ := t.lookup_of_not_absolute true (show p.isAbsolute = false by simpa using habs)
  simp [FileSystem.isFile, view, herr, bind, Except.bind] at h

end FileTree

namespace Locate

/-- The locator answers every specifier with a regular file, on any file system. -/
theorem node_isFile (fs : FileSystem) {x : String} {base found : Path} {exts : List String}
    (h : Locator.node fs x base exts = some found) : fs.isFile found = true := by
  unfold Locator.node at h
  split at h
  · cases h
  · split at h
    · cases h
    · split at h
      · exact resolveFileOrDir_isFile fs exts h
      · rw [resolveBare_eq] at h
        obtain ⟨d, -, hd⟩ := resolveBareFrom_eq_some fs _ _ exts (fun _ => True)
          (fun _ _ _ _ => trivial) _ trivial h
        exact resolveFileOrDir_isFile fs exts hd

/-- From a normal directory, every answer is normal but for a scoped package part `.` or
`..`. -/
theorem node_isNormal_of_not_dotScoped (t : FileTree) {exts : List String}
    (hext : ∀ e ∈ exts, '/' ∉ e.toList) {x : String} {base found : Path} (hbase : base.IsNormal)
    (hdot : ¬IsDotScoped x) (h : Locator.node t.view x base exts = some found) :
    found.IsNormal := by
  by_cases hpath : isPathLike x = true
  · exact (node_isNormal t hext hpath (Path.join_isAbsolute _ hbase.isAbsolute) h).1
  unfold Locator.node at h
  split at h
  · cases h
  rename_i hx
  split at h
  · cases h
  -- a package, found below `node_modules` of a normal directory
  rw [resolveBare_eq] at h
  obtain ⟨d, ⟨ds, hds, rfl⟩, hd⟩ := resolveBareFrom_eq_some t.view _ _ exts Path.IsNormal
    (fun _ _ hd hup => hd.parent hup) _ hbase h
  cases hsub : (splitBare x).2 with
  | some s =>
    rw [hsub] at hd
    exact resolveFileOrDir_isNormal t hext (Path.normalize_isNormal (Path.join_isAbsolute _
      (Path.join_isAbsolute _ (Path.join_isAbsolute _ (ofNames_isAbsolute ds))))) hd
  | none =>
    rw [hsub] at hd
    have hne : x ≠ "" := fun h => hx (by simp [h])
    rcases packageDir_cases hds hne (by simpa using hpath) hdot hsub with hn | ⟨e, he, hnames, heq⟩
    · exact resolveFileOrDir_isNormal t hext hn hd
    · rw [heq] at hd
      exact resolveFileOrDir_slash_isNormal t hext hnames he hd

end Locate

/-- Locator hits are existing regular files, absolute, and lexically normalized, except for a
scoped package part `.` or `..`. On any file system, the empty specifier and URL-like ones
(holding `://`, or starting with `node:` or `data:`) name nothing. On a file tree, from an
absolute normalized directory with extensions free of `/`, an answer is a regular file, so
absolute, and normalized unless the specifier is a scoped name whose package part is `.` or
`..`. -/
theorem located_file_normalized (t : FileTree) (x : String) (base : Path) (exts : List String) :
    (∀ fs : FileSystem, (x = "" ∨ "://".toList <:+: x.toList ∨ x.startsWith "node:" = true ∨
        x.startsWith "data:" = true) → Locator.node fs x base exts = none) ∧
    (base.isAbsolute = true → base.normalize = base → (∀ e ∈ exts, '/' ∉ e.toList) →
      ∀ found, Locator.node t.view x base exts = some found →
        t.view.isFile found = true ∧ found.isAbsolute = true ∧
          (¬Locate.IsDotScoped x → found.normalize = found)) := by
  refine ⟨fun fs hnone => ?_, fun habs hnorm hext found h => ?_⟩
  · unfold Locator.node
    rcases hnone with rfl | hurl
    · simp
    · rw [if_neg (by simp; rintro rfl; simp at hurl)]
      have hurl' : (Specifier.hasInfix "://".toList x.toList || x.startsWith "node:" ||
          x.startsWith "data:") = true := by
        rcases hurl with hinf | hnode | hdata
        · rw [(Specifier.hasInfix_iff _ _).2 hinf, Bool.true_or, Bool.true_or]
        · rw [hnode, Bool.or_true, Bool.true_or]
        · rw [hdata, Bool.or_true]
      rw [if_pos hurl']
  · have hfile := Locate.node_isFile t.view h
    refine ⟨hfile, t.view_isFile_isAbsolute hfile, fun hdot => ?_⟩
    have hbase : base.IsNormal := hnorm ▸ Path.normalize_isNormal habs
    obtain ⟨ns, hns, rfl⟩ := Locate.node_isNormal_of_not_dotScoped t hext hbase hdot h
    exact Path.normalize_ofNames hns

/-- The scoped specifier `@s/..` names the directory `node_modules/@s/..`, which is
`node_modules` itself; its index file is answered as `node_modules/@s/../index.js`, which is
not normalized. -/
theorem scoped_parent_index_not_normalized :
    let t : FileTree := ⟨[(["r"], .directory), (["r", "node_modules"], .directory),
      (["r", "node_modules", "@s"], .directory), (["r", "node_modules", "index.js"], .file "")]⟩
    let found : Path := ⟨"/r/node_modules/@s/../index.js"⟩
    (Path.ofNames ["r"]).isAbsolute = true ∧ (Path.ofNames ["r"]).normalize = Path.ofNames ["r"] ∧
      Locator.node t.view "@s/.." (Path.ofNames ["r"]) [".js"] = some found ∧
      found.normalize ≠ found := by
  intro t found
  -- each path the locator looks at is looked up by walking its names
  have hdir : t.view.isDir ⟨"/r/node_modules/@s/.."⟩ = true := by
    rw [FileTree.view_isDir_eq, t.lookup_eq_walk _ (FileTree.contains_nul_eq_false (by decide))
      (by decide +kernel) (by decide)]
    simp only [FileTree.names, splitOn_slash]
    decide +kernel
  have hnofile : Locate.resolveFile t.view ⟨"/r/node_modules/@s/.."⟩ [".js"] = none := by
    simp only [Locate.resolveFile, FileTree.view_isFile_eq, Locate.withExtension, List.map_cons,
      List.map_nil, List.find?_cons]
    rw [t.lookup_eq_walk _ (FileTree.contains_nul_eq_false (by decide)) (by decide +kernel)
        (by decide),
      t.lookup_eq_walk _ (FileTree.contains_nul_eq_false (by decide)) (by decide +kernel)
        (by decide)]
    simp only [FileTree.names, splitOn_slash]
    decide +kernel
  have hnopkg : t.view.isFile ⟨"/r/node_modules/@s/../package.json"⟩ = false := by
    rw [FileTree.view_isFile_eq, t.lookup_eq_walk _ (FileTree.contains_nul_eq_false (by decide))
      (by decide +kernel) (by decide)]
    simp only [FileTree.names, splitOn_slash]
    decide +kernel
  have hindex : t.view.isFile found = true := by
    rw [FileTree.view_isFile_eq, t.lookup_eq_walk _ (FileTree.contains_nul_eq_false (by decide))
      (by decide +kernel) (by decide)]
    simp only [FileTree.names, splitOn_slash, found]
    decide +kernel
  refine ⟨ofNames_isAbsolute _, Path.normalize_ofNames (by decide), ?_, ?_⟩
  · -- a bare specifier: `@s/..` is one scoped package name, joined as written
    have hnode : Locator.node t.view "@s/.." (Path.ofNames ["r"]) [".js"] =
        Locate.resolveBare t.view "@s/.." (Path.ofNames ["r"]) [".js"] := by
      unfold Locator.node
      rw [if_neg (by decide), if_neg (by decide +kernel), if_neg (by decide +kernel)]
    rw [hnode, Locate.resolveBare_eq,
      show Locate.splitBare "@s/.." = ("@s/..", none) by decide +kernel,
      show (Path.ofNames ["r"]).text.length + 2 = 3 + 1 by decide, Locate.resolveBareFrom]
    simp only [show ((Path.ofNames ["r"]).join ⟨"node_modules"⟩).join ⟨"@s/.."⟩ =
      ⟨"/r/node_modules/@s/.."⟩ by decide +kernel, hdir, if_true]
    rw [Locate.resolveFileOrDir_of_directory hnofile hdir, Locate.resolveDirectory_of_not_package
      (by rw [show (Path.mk "/r/node_modules/@s/..").join ⟨"package.json"⟩ =
        ⟨"/r/node_modules/@s/../package.json"⟩ by decide +kernel]; exact hnopkg)]
    simp only [Locate.resolveIndex, List.map_cons, List.map_nil, List.find?_cons,
      show (Path.mk "/r/node_modules/@s/..").join ⟨"index" ++ ".js"⟩ = found by decide +kernel,
      hindex]
  · -- normalizing drops `@s/..`
    have htext : found = ⟨"/" ++ "r/node_modules/@s/../index.js"⟩ := by decide +kernel
    rw [htext, Path.normalize, components_root_append]
    simp only [textComponents, splitOn_slash]
    decide

end ImportPath
