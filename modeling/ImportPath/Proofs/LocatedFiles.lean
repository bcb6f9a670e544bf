import ImportPath.Proofs.RelativePath
import ImportPath.FileSystem.Tree
import ImportPath.Locate.Node

/-!
# What the locator finds on a file tree

The locator answers with a path it has checked to be a regular file, on any file system
(`resolveFileOrDir_isFile`). Where it looks is fixed by the path it starts from: that path
itself or with an extension appended, the `index` file of the directory with an extension,
and the same for the path named by the `main` entry of a `package.json`.

On a file tree a path-like specifier taken against an absolute directory is therefore only
ever answered by a normal path, the root followed by names (`node_isNormal`). The path it
starts from is normalized; an extension free of `/` appended to a last name gives a name, and
`index` with such an extension is a name. The one way out of normal form, the extension `.`
or `..` appended to the root, gives a directory and not a file on a tree.

The roots of the settings of a file are absolute on a file tree too
(`settingsFor_root_isAbsolute`): a root pattern only keeps directories, and a relative path
names nothing on a tree.
-/

namespace ImportPath

/-! ## Names built by the locator -/

namespace IsName

/-- A text that starts with a name and goes on without `/` is a name. -/
theorem append {n e : String} (hn : IsName n) (he : '/' ∉ e.toList) : IsName (n ++ e) := by
  -- a prefix of `.` or `..` that is not empty is `.` or `..`
  have hdots : ∀ u : List Char, n.toList <+: u → u.length ≤ 2 → (∀ c ∈ u, c = '.') → False := by
    intro u hp hlen hu
    have hnl : n.toList ≠ [] := by simpa using hn.ne_empty
    have hnlen := hp.length_le
    rw [List.prefix_iff_eq_take] at hp
    have hall : ∀ c ∈ n.toList, c = '.' := by
      intro c hc
      rw [hp] at hc
      exact hu c (List.mem_of_mem_take hc)
    have hcases : n.toList = ['.'] ∨ n.toList = ['.', '.'] := by
      match hn' : n.toList, hnl, hnlen, hall with
      | [a], _, _, hall => exact .inl (by simp [hall a (by simp)])
      | [a, b], _, _, hall => exact .inr (by simp [hall a (by simp), hall b (by simp)])
      | _ :: _ :: _ :: _, _, hnlen, _ => simp at hnlen; omega
    rcases hcases with h | h
    · exact hn.ne_current (String.toList_inj.1 (by simpa using h))
    · exact hn.ne_parent (String.toList_inj.1 (by simpa using h))
  refine ⟨?_, ?_, ?_, ?_⟩
  · intro h
    exact hn.ne_empty (String.append_eq_empty_iff.1 h).1
  · intro h
    exact hdots ['.'] (by rw [← show (n ++ e).toList = ['.'] by simp [h]]; simp) (by simp)
      (by simp)
  · intro h
    exact hdots ['.', '.'] (by rw [← show (n ++ e).toList = ['.', '.'] by simp [h]]; simp)
      (by simp) (by simp)
  · simpa using ⟨hn.no_slash, he⟩

/-- `index` with an extension free of `/` is a name. -/
theorem index {e : String} (he : '/' ∉ e.toList) : IsName ("index" ++ e) :=
  append ⟨by decide, by decide, by decide, by decide⟩ he

end IsName

namespace Path

/-- Joining a name to a normal directory walks into it. -/
theorem ofNames_join_name {d : List String} (hd : ∀ n ∈ d, IsName n) {x : String}
    (hx : IsName x) : (ofNames d).join ⟨x⟩ = ofNames (d ++ [x]) := by
  have habs : (Path.mk x).isAbsolute = false := by
    rw [Bool.eq_false_iff]
    intro h
    simp only [isAbsolute, String.startsWith_string_iff] at h
    obtain ⟨u, hu⟩ := h
    exact hx.no_slash (by rw [← hu]; simp)
  unfold join
  rw [if_neg (by simp [habs])]
  by_cases hne : d = []
  · subst hne
    simp [ofNames]
  · have hcond : ((ofNames d).text.isEmpty || (ofNames d).text.toList.getLast? == some '/') =
        false := by
      simpa [ofNames] using getLast_ofNames_ne_slash hd hne
    rw [hcond, if_neg Bool.false_ne_true]
    simp [ofNames, String.intercalate_append_of_ne_nil hne, String.append_assoc]

theorem IsNormal.isAbsolute {p : Path} (hp : p.IsNormal) : p.isAbsolute = true := by
  obtain ⟨ns, -, rfl⟩ := hp
  exact ofNames_isAbsolute ns

/-- A path taken from a normal directory is normal once normalized. -/
theorem IsNormal.normalize_join {p : Path} (hp : p.IsNormal) (x : String) :
    (p.join ⟨x⟩).normalize.IsNormal :=
  normalize_isNormal (join_isAbsolute _ hp.isAbsolute)

/-- An extension appended to a normal path of at least one name extends the last name. -/
theorem withExtension_ofNames_append (ns : List String) (n e : String) :
    Locate.withExtension (ofNames (ns ++ [n])) e = ofNames (ns ++ [n ++ e]) := by
  simp [Locate.withExtension, ofNames, intercalate_append_singleton, String.append_assoc]

end Path

/-! ## Directories of a file tree -/

namespace FileTree

variable (t : FileTree)

/-- A relative path names nothing on a file tree. -/
theorem lookup_of_not_absolute (followLast : Bool) {p : Path} (h : p.isAbsolute = false) :
    ∃ err, t.lookup followLast p = .error err := by
  unfold lookup
  split
  · exact ⟨_, rfl⟩
  · rw [if_pos (by simpa [Path.isAbsolute] using h)]
    exact ⟨_, rfl⟩

theorem view_isDir_isAbsolute {p : Path} (h : t.view.isDir p = true) : p.isAbsolute = true := by
  by_contra habs
  obtain ⟨err, herr⟩ := t.lookup_of_not_absolute true (show p.isAbsolute = false by simpa using habs)
  simp [FileSystem.isDir, view, herr, bind, Except.bind] at h

theorem names_root_current : names "/." = ["."] := by
  have h : List.splitOn '/' ['/', '.'] = [[], ['.']] := by decide
  simp [names, splitOn_slash, h]

theorem names_root_parent : names "/.." = [".."] := by
  have h : List.splitOn '/' ['/', '.', '.'] = [[], ['.', '.']] := by decide
  simp [names, splitOn_slash, h]

/-- Looking up one name at the root takes at least two steps of the walk. -/
theorem walkFuel_one : ∃ fuel, t.walkFuel 1 = fuel + 1 + 1 :=
  ⟨t.walkFuel 1 - 2, by unfold walkFuel; omega⟩

/-- `/.` and `/..` are the root, a directory. -/
theorem lookup_root_dots {c : String} (hc : c = "." ∨ c = "..") :
    t.lookup true ⟨"/" ++ c⟩ = .ok ([], .directory) := by
  obtain ⟨fuel, hfuel⟩ := t.walkFuel_one
  have hnames : names ("/" ++ c) = [c] := by
    rcases hc with rfl | rfl
    exacts [names_root_current, names_root_parent]
  have hnul : ("/" ++ c).contains (Char.ofNat 0) = false := by rcases hc with rfl | rfl <;> simp
  have hsize : ¬ ("/" ++ c).utf8ByteSize ≥ 4096 := by rcases hc with rfl | rfl <;> decide
  simp only [lookup, hnul, hsize, hnames, List.length_singleton, hfuel]
  rcases hc with rfl | rfl <;> simp [walk]

theorem view_isFile_root_dots {c : String} (hc : c = "." ∨ c = "..") :
    t.view.isFile ⟨"/" ++ c⟩ = false := by
  simp [FileSystem.isFile, view, t.lookup_root_dots hc, bind, Except.bind, pure, Except.pure]

/-! ### Looking up normal paths -/

theorem splitOn_root_append (b : String) : ("/" ++ b).splitOn "/" = "" :: b.splitOn "/" := by
  have h : ("/" ++ b).toList = '/' :: b.toList := by simp
  rw [splitOn_slash, splitOn_slash, h, List.splitOn_cons_eq_if_modifyHead, if_pos (by simp)]
  rfl

/-- The names a lookup walks for a normal path are its names. -/
theorem names_ofNames {ns : List String} (h : ∀ n ∈ ns, IsName n) :
    names (Path.ofNames ns).text = ns := by
  unfold names
  rw [Path.ofNames, splitOn_root_append]
  by_cases hne : ns = []
  · subst hne
    simp [splitOn_slash]
  · rw [← Path.body_ofNames, ← Path.parts_ofNames h hne]
    have hparts := Path.parts_ofNames h hne
    simp only [Path.parts, Path.body_ofNames] at hparts ⊢
    split at hparts
    · exact absurd hparts.symm hne
    · rw [if_neg (by assumption)]
      simp only [ne_eq, List.filter_cons, hparts, not_true_eq_false, decide_false, Bool.false_eq_true,
        if_false]
      exact List.filter_eq_self.2 fun n hn => by simpa using (h n hn).ne_empty

/-- A normal path never ends with a separator after a name. -/
theorem endsWith_ofNames (ns : List String) (h : ∀ n ∈ ns, IsName n) :
    ((Path.ofNames ns).text.endsWith "/" && ns != []) = false := by
  by_cases hne : ns = []
  · simp [hne]
  · have hlast := Path.getLast_ofNames_ne_slash h hne
    have hend : (Path.ofNames ns).text.endsWith "/" = false := by
      simp only [← String.endsWith_toSlice, String.Slice.endsWith_string_eq_false_iff,
        String.copy_toSlice]
      rintro ⟨u, hu⟩
      exact hlast (by simp [← hu])
    simp [hend]

/-- A character other than the separator is in joined names only if it is in one of them. -/
theorem not_mem_intercalate_slash {c : Char} (hc : c ≠ '/') :
    ∀ {ns : List String}, (∀ n ∈ ns, c ∉ n.toList) → c ∉ ("/".intercalate ns).toList
  | [], _ => by simp
  | [n], h => by simpa using h n (by simp)
  | n :: m :: rest, h => by
    rw [String.intercalate_cons_cons]
    simp only [String.toList_append, List.mem_append, not_or]
    exact ⟨⟨h n (by simp), by simpa using hc⟩,
      not_mem_intercalate_slash hc fun x hx => h x (List.mem_cons_of_mem _ hx)⟩

/-- A normal path is looked up by walking its names from the root, when it holds no NUL
character and is short enough. -/
theorem lookup_ofNames {ns : List String} (h : ∀ n ∈ ns, IsName n ∧ Char.ofNat 0 ∉ n.toList)
    (hsize : (Path.ofNames ns).text.utf8ByteSize < 4096) (followLast : Bool) :
    t.lookup followLast (Path.ofNames ns) =
      t.walk followLast false (t.walkFuel ns.length) 0 [] ns := by
  have hnames : ∀ n ∈ ns, IsName n := fun n hn => (h n hn).1
  have hnul : (Path.ofNames ns).text.contains (Char.ofNat 0) = false := by
    have hmem : Char.ofNat 0 ∉ (Path.ofNames ns).text.toList := by
      simp only [Path.ofNames, String.toList_append, List.mem_append, not_or]
      exact ⟨by decide, not_mem_intercalate_slash (by decide) fun n hn => (h n hn).2⟩
    simpa using hmem
  have habs : (Path.ofNames ns).text.startsWith "/" = true := ofNames_isAbsolute ns
  simp only [lookup, hnul, habs, Bool.not_true, Bool.false_eq_true, if_false,
    Nat.not_le.2 hsize, names_ofNames hnames, endsWith_ofNames ns hnames]

/-- What the file system of a tree says a path is, read off the lookup. -/
theorem view_isFile_eq (p : Path) : t.view.isFile p =
    match t.lookup true p with
    | .ok (_, .file _) => true
    | _ => false := by
  cases h : t.lookup true p with
  | error e => simp [FileSystem.isFile, view, h, bind, Except.bind]
  | ok v =>
    obtain ⟨dir, e⟩ := v
    cases e <;> simp [FileSystem.isFile, view, h, bind, Except.bind, pure, Except.pure]

theorem view_isDir_eq (p : Path) : t.view.isDir p =
    match t.lookup true p with
    | .ok (_, .file _) => false
    | .ok _ => true
    | .error _ => false := by
  cases h : t.lookup true p with
  | error e => simp [FileSystem.isDir, view, h, bind, Except.bind]
  | ok v =>
    obtain ⟨dir, e⟩ := v
    cases e <;> simp [FileSystem.isDir, view, h, bind, Except.bind, pure, Except.pure]

end FileTree

/-! ## Where the locator looks -/

namespace Locate

section AnyFileSystem

variable (fs : FileSystem) (exts : List String)

/-- A file found from a path is the path itself or the path with an extension appended. -/
theorem resolveFile_eq_some {base found : Path} (h : resolveFile fs base exts = some found) :
    fs.isFile found = true ∧ (found = base ∨ ∃ e ∈ exts, found = withExtension base e) := by
  unfold resolveFile at h
  split at h
  · cases h
    exact ⟨by assumption, .inl rfl⟩
  · obtain ⟨e, he, rfl⟩ := List.mem_map.1 (List.mem_of_find?_eq_some h)
    exact ⟨List.find?_some h, .inr ⟨e, he, rfl⟩⟩

/-- An index file is the directory's `index` with an extension. -/
theorem resolveIndex_eq_some {dir found : Path} (h : resolveIndex fs dir exts = some found) :
    fs.isFile found = true ∧ ∃ e ∈ exts, found = dir.join ⟨"index" ++ e⟩ := by
  obtain ⟨e, he, rfl⟩ := List.mem_map.1 (List.mem_of_find?_eq_some h)
  exact ⟨List.find?_some h, e, he, rfl⟩

/-- A file found for a directory is found from the path its `main` entry names, as a file or
as a directory's index, or is the directory's own index. -/
theorem resolveDirectory_eq_some {dir found : Path}
    (h : resolveDirectory fs dir exts = some found) :
    (∃ main : String, resolveFile fs (dir.join ⟨main⟩).normalize exts = some found ∨
      resolveIndex fs (dir.join ⟨main⟩).normalize exts = some found) ∨
    resolveIndex fs dir exts = some found := by
  unfold resolveDirectory at h
  dsimp only at h
  split at h
  · rename_i f hvia
    cases h
    left
    split at hvia
    · split at hvia
      · rename_i main _
        refine ⟨main, ?_⟩
        split at hvia
        · rename_i f' hfile
          cases hvia
          exact .inl hfile
        · split at hvia
          · exact .inr hvia
          · cases hvia
      · cases hvia
    · cases hvia
  · exact .inr h

theorem resolveFileOrDir_eq_some {base found : Path}
    (h : resolveFileOrDir fs base exts = some found) :
    resolveFile fs base exts = some found ∨ resolveDirectory fs base exts = some found := by
  unfold resolveFileOrDir at h
  split at h
  · rename_i f hf
    cases h
    exact .inl hf
  · split at h
    · exact .inr h
    · cases h

/-- The locator only answers with regular files. -/
theorem resolveFileOrDir_isFile {base found : Path}
    (h : resolveFileOrDir fs base exts = some found) : fs.isFile found = true := by
  rcases resolveFileOrDir_eq_some fs exts h with h | h
  · exact (resolveFile_eq_some fs exts h).1
  · rcases resolveDirectory_eq_some fs exts h with ⟨main, h | h⟩ | h
    · exact (resolveFile_eq_some fs exts h).1
    · exact (resolveIndex_eq_some fs exts h).1
    · exact (resolveIndex_eq_some fs exts h).1

/-- A path-like specifier is looked up as the path it names from the base directory. -/
theorem node_of_isPathLike {x : String} {base found : Path} (hx : isPathLike x = true)
    (h : Locator.node fs x base exts = some found) :
    resolveFileOrDir fs (base.join ⟨x⟩).normalize exts = some found := by
  simp only [Locator.node, hx, if_true] at h
  split at h
  · cases h
  · split at h
    · cases h
    · exact h

/-- A path-like specifier that is not a URL is looked up as the path it names. -/
theorem node_eq_of_isPathLike {x : String} (base : Path) (hx : isPathLike x = true)
    (hurl : (Specifier.hasInfix "://".toList x.toList || x.startsWith "node:" ||
      x.startsWith "data:") = false) :
    Locator.node fs x base exts = resolveFileOrDir fs (base.join ⟨x⟩).normalize exts := by
  have hne : x.isEmpty = false := by
    rw [Bool.eq_false_iff]
    intro h
    rw [String.isEmpty_iff.1 h] at hx
    simp [isPathLike, Specifier.isAbsolutePath] at hx
  simp only [Locator.node, hne, hurl, hx, Bool.false_eq_true, if_false, if_true]

end AnyFileSystem

section FileTree

variable (t : FileTree) {exts : List String} (hext : ∀ e ∈ exts, '/' ∉ e.toList)
include hext

/-- On a file tree, a file found from a normal path with an extension appended is normal. -/
theorem resolveFile_isNormal {base found : Path} (hbase : base.IsNormal)
    (h : resolveFile t.view base exts = some found) : found.IsNormal := by
  obtain ⟨hfile, rfl | ⟨e, he, rfl⟩⟩ := resolveFile_eq_some t.view exts h
  · exact hbase
  obtain ⟨ns, hns, rfl⟩ := hbase
  rcases List.eq_nil_or_concat ns with rfl | ⟨ns0, n, rfl⟩
  · -- at the root the extension itself is the name, unless it is `.` or `..`
    have htext : withExtension (Path.ofNames []) e = ⟨"/" ++ e⟩ := by
      simp [withExtension, Path.ofNames]
    rw [htext] at hfile ⊢
    by_cases hdots : e = "." ∨ e = ".."
    · rw [t.view_isFile_root_dots hdots] at hfile
      cases hfile
    by_cases hempty : e = ""
    · exact ⟨[], by simp, by simp [hempty, Path.ofNames]⟩
    · obtain ⟨hcur, hpar⟩ := not_or.1 hdots
      exact ⟨[e], by simpa using (⟨hempty, hcur, hpar, hext e he⟩ : IsName e),
        by simp [Path.ofNames]⟩
  · rw [List.concat_eq_append, Path.withExtension_ofNames_append]
    refine ⟨_, fun x hx => ?_, rfl⟩
    rcases List.mem_append.1 hx with hx | hx
    · exact hns x (by simp [hx])
    · rw [List.mem_singleton.1 hx]
      exact (hns n (by simp)).append (hext e he)

/-- The index file of a normal directory is normal. -/
theorem resolveIndex_isNormal {dir found : Path} (hdir : dir.IsNormal)
    (h : resolveIndex t.view dir exts = some found) : found.IsNormal := by
  obtain ⟨-, e, he, rfl⟩ := resolveIndex_eq_some t.view exts h
  obtain ⟨ns, hns, rfl⟩ := hdir
  have hidx := IsName.index (hext e he)
  refine ⟨_, fun x hx => ?_, Path.ofNames_join_name hns hidx⟩
  rcases List.mem_append.1 hx with hx | hx
  · exact hns x hx
  · rw [List.mem_singleton.1 hx]
    exact hidx

/-- On a file tree, the locator answers a normal path with a normal path. -/
theorem resolveFileOrDir_isNormal {base found : Path} (hbase : base.IsNormal)
    (h : resolveFileOrDir t.view base exts = some found) : found.IsNormal := by
  rcases resolveFileOrDir_eq_some t.view exts h with h | h
  · exact resolveFile_isNormal t hext hbase h
  rcases resolveDirectory_eq_some t.view exts h with ⟨main, h | h⟩ | h
  · exact resolveFile_isNormal t hext (hbase.normalize_join main) h
  · exact resolveIndex_isNormal t hext (hbase.normalize_join main) h
  · exact resolveIndex_isNormal t hext hbase h

/-- On a file tree, a path-like specifier that names an absolute path is answered by a normal
regular file. -/
theorem node_isNormal {x : String} {base found : Path} (hx : isPathLike x = true)
    (habs : (base.join ⟨x⟩).isAbsolute = true) (h : Locator.node t.view x base exts = some found) :
    found.IsNormal ∧ t.view.isFile found = true :=
  have hfound := node_of_isPathLike t.view exts hx h
  ⟨resolveFileOrDir_isNormal t hext (Path.normalize_isNormal habs) hfound,
    resolveFileOrDir_isFile t.view exts hfound⟩

end FileTree

end Locate

/-! ## Roots on a file tree -/

/-- Every directory a root stands for is absolute on a file tree, for an absolute working
directory. -/
theorem Settings.rootDirs_isAbsolute (t : FileTree) {cwd : Path} (hcwd : cwd.isAbsolute = true)
    (root : String) : ∀ r ∈ Settings.rootDirs t.view cwd root, r.isAbsolute = true := by
  intro r hr
  unfold Settings.rootDirs at hr
  split at hr
  · rw [List.mem_singleton.1 hr]
    exact Path.resolve_isAbsolute _ hcwd
  · -- a pattern keeps the directories it matches, and those are absolute
    dsimp only at hr
    generalize Glob.expand t.view _ = res at hr
    cases res with
    | error => cases hr
    | ok paths =>
      obtain ⟨p, hp, rfl⟩ := List.mem_map.1 hr
      exact Path.normalize_isAbsolute (t.view_isDir_isAbsolute (List.mem_filter.1 hp).2)

theorem settingsFor_root (fs : FileSystem) (cfg : Config) (file procCwd : Path) :
    (cfg.settingsFor fs file procCwd).root =
      ((cfg.layerFor file procCwd).root.getD []).flatMap
        (Settings.rootDirs fs (cfg.settingsFor fs file procCwd).cwd) := rfl

/-- On a file tree, the roots of the settings of an absolute file, in an absolute process
directory, are absolute. -/
theorem settingsFor_root_isAbsolute (t : FileTree) (cfg : Config) {file procCwd : Path}
    (hfile : file.isAbsolute = true) (hcwd : procCwd.isAbsolute = true) :
    ∀ r ∈ (cfg.settingsFor t.view file procCwd).root, r.isAbsolute = true := by
  intro r hr
  rw [settingsFor_root] at hr
  obtain ⟨root, -, hr⟩ := List.mem_flatMap.1 hr
  exact Settings.rootDirs_isAbsolute t (settingsFor_cwd_isAbsolute _ cfg hfile hcwd) root r hr

end ImportPath
