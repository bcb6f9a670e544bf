import Mathlib.Data.List.Chain
import ImportPath.Proofs.Landing

/-!
# Locating a written specifier again

With the default rewrite rules, which strip each configured extension, the specifier written
for a found file names that file without its extension. Locating the specifier again from the
directory of the current file tries the path it names, then that path with each configured
extension appended (`Locate.probes`). The found file is one of these paths
(`landing_candidate`), unless stripping the extension from its name leaves `.` or `..`
(`Path.StripsToDots`), and it is found again when no regular file is tried before it
(`Locate.FoundFirst`, `relocated_output_finds_found`).

Both conditions are needed (`relocation_finds_other_file`): a file `lib/index` next to
`lib/index.js` is tried first for the specifier `./lib/index` written for `lib/index.js`; and
with the extensions `.js` and `s`, the file `x/..js` found for `x/..j` is written `../x/.`,
which names the directory `x`. The specifier is a local path and never a URL
(`specifierOf_not_url`): its parts are `..` and names, so it never holds two separators in a
row.
-/

namespace ImportPath

/-! ## Texts without two separators in a row -/

namespace Specifier

theorem hasInfix_iff (part : List Char) : ∀ cs, hasInfix part cs = true ↔ part <:+: cs
  | [] => by simp [hasInfix]
  | c :: cs => by
    simp [hasInfix, hasInfix_iff part cs, List.infix_cons_iff, List.isPrefixOf_iff_prefix]

/-- No two separators follow each other. -/
abbrev NoDoubleSlash (cs : List Char) : Prop :=
  cs.IsChain fun a b => ¬ (a = '/' ∧ b = '/')

theorem noDoubleSlash_of_not_mem : ∀ {cs : List Char}, '/' ∉ cs → NoDoubleSlash cs
  | [], _ => .nil
  | [_], _ => .singleton _
  | a :: b :: rest, h => by
    refine List.IsChain.cons_cons (fun hab => h (hab.1 ▸ List.mem_cons_self)) ?_
    exact noDoubleSlash_of_not_mem fun hb => h (List.mem_cons_of_mem _ hb)

/-- A text without two separators in a row is no URL: it has no `://`. -/
theorem not_hasInfix_url {cs : List Char} (h : NoDoubleSlash cs) :
    hasInfix "://".toList cs = false := by
  rw [Bool.eq_false_iff]
  intro hinf
  have hsub := h.infix ((show ['/', '/'] <:+: "://".toList by decide).trans
    ((hasInfix_iff _ cs).1 hinf))
  simp at hsub

/-- Parts that are not empty and hold no separator. -/
def PlainParts (ps : List String) : Prop := ∀ p ∈ ps, p ≠ "" ∧ '/' ∉ p.toList

/-- Plain parts joined by separators start with a character other than the separator and
never have two separators in a row. -/
theorem intercalate_plain : ∀ {ps : List String}, PlainParts ps →
    ("/".intercalate ps).toList.head? ≠ some '/' ∧ NoDoubleSlash ("/".intercalate ps).toList
  | [], _ => by simp
  | [p], h => by
    have hp := h p (by simp)
    refine ⟨fun hhead => hp.2 ?_, noDoubleSlash_of_not_mem (by simpa using hp.2)⟩
    simpa using List.mem_of_mem_head? hhead
  | p :: q :: rest, h => by
    have hp := h p (by simp)
    obtain ⟨hhead, hchain⟩ := intercalate_plain fun x hx => h x (List.mem_cons_of_mem _ hx)
    have hpl : p.toList ≠ [] := by simpa using hp.1
    have hsl : ("/" : String).toList = ['/'] := by simp
    rw [String.intercalate_cons_cons]
    simp only [String.toList_append, hsl]
    refine ⟨?_, ?_⟩
    · -- the first part is not empty, so it gives the first character
      rw [List.append_assoc, List.head?_append_of_ne_nil _ hpl]
      exact fun hhead' => hp.2 (List.mem_of_mem_head? hhead')
    · unfold NoDoubleSlash
      rw [List.isChain_append, List.isChain_append]
      refine ⟨⟨noDoubleSlash_of_not_mem hp.2, .singleton _, ?_⟩, hchain, ?_⟩
      · intro x hx y hy
        simp only [List.head?_cons, Option.mem_def, Option.some.injEq] at hy
        subst hy
        exact fun hxy => hp.2 (hxy.1 ▸ List.mem_of_getLast? hx)
      · intro x hx y hy
        simp only [List.getLast?_append, List.getLast?_singleton, Option.some_or,
          Option.mem_def, Option.some.injEq] at hx
        subst hx
        exact fun hxy => hhead (hxy.2 ▸ hy)

/-- Marking as local a text that does not start with a separator keeps it free of two
separators in a row. -/
theorem toLocal_noDoubleSlash {y : String} (hhead : y.toList.head? ≠ some '/')
    (hy : NoDoubleSlash y.toList) : NoDoubleSlash (toLocal y).toList := by
  unfold toLocal
  split
  · decide
  · split
    · exact hy
    · have hdot : ("./" ++ y).toList = ['.', '/'] ++ y.toList := by simp
      unfold NoDoubleSlash
      rw [hdot, List.isChain_append]
      refine ⟨by decide, hy, ?_⟩
      intro x hx z hz hxz
      rw [hxz.2] at hz
      exact hhead hz

end Specifier

/-! ## Stripping an extension from a name -/

namespace ExtensionRewrite

theorem lastSegment_of_not_mem {cs : List Char} (h : '/' ∉ cs) :
    Specifier.lastSegment cs = cs := by
  have hall : ∀ c ∈ cs.reverse, (c != '/') = true := by
    intro c hc
    have hc' : c ≠ '/' := fun hcs => h (hcs ▸ List.mem_reverse.1 hc)
    simpa using hc'
  unfold Specifier.lastSegment
  rw [← List.append_nil cs.reverse, List.takeWhile_append_of_pos hall]
  simp

/-- Stripping the configured extensions from a name without separators: either no rule fits
and the name is kept, or the first rule that fits strips one of the extensions and leaves a
part that is not empty. -/
theorem applyFirst_strip (exts : List String) {n : String} (hn : '/' ∉ n.toList) :
    applyFirst (exts.map strip) n = n ∨
      ∃ e ∈ exts, applyFirst (exts.map strip) n ++ e = n ∧ applyFirst (exts.map strip) n ≠ "" := by
  unfold applyFirst
  have hname : String.ofList (Specifier.lastSegment n.toList) = n := by
    rw [lastSegment_of_not_mem hn, String.ofList_toList]
  rw [hname]
  dsimp only
  rw [List.find?_map]
  cases hfind : exts.find? ((fun r => r.fits n) ∘ strip) with
  | none => exact .inl rfl
  | some e =>
    right
    have hfit : (strip e).fits n = true := by simpa using List.find?_some hfind
    simp only [fits, strip, Bool.and_eq_true, Bool.not_eq_true', String.isEmpty_eq_false_iff,
      List.isSuffixOf_iff_suffix] at hfit
    obtain ⟨⟨-, hsize⟩, u, hu⟩ := hfit
    -- the rest is what the extension leaves of the name
    have hrest : String.ofList (n.toList.take (n.length - e.length)) ++ "" = String.ofList u := by
      have hlen : n.length - e.length = u.length := by
        rw [← String.length_toList, ← String.length_toList, ← hu, List.length_append]
        omega
      rw [String.append_empty, hlen, ← hu, List.take_left' rfl]
    simp only [Option.map_some, strip]
    rw [hrest]
    refine ⟨e, List.mem_of_find?_eq_some hfind, ?_, ?_⟩
    · rw [← String.toList_inj]
      simpa using hu
    · intro hu0
      have hnil : u = [] := by simpa using congrArg String.toList hu0
      subst hnil
      rw [List.nil_append, String.toList_inj] at hu
      exact absurd (hu ▸ hsize) (by simp)

theorem applyFirst_empty (rules : List ExtensionRewrite) : applyFirst rules "" = "" := by
  unfold applyFirst
  -- no rule fits the empty name, which is shorter than any source
  have hnone : rules.find? (·.fits "") = none := by
    rw [List.find?_eq_none]
    intro r _
    simp [fits]
  simp [Specifier.lastSegment, hnone]

end ExtensionRewrite

/-! ## The found file is among the paths tried again -/

theorem Path.fileName_ofNames_append {ns : List String} {n : String}
    (h : ∀ x ∈ ns ++ [n], IsName x) : (Path.ofNames (ns ++ [n])).fileName = some n := by
  rw [Path.fileName, components_ofNames h, List.map_append, ← List.cons_append,
    List.getLast?_append_of_ne_nil _ (by simp)]
  rfl

/-- Stripping from the name of a path the first configured extension that fits leaves `.`
or `..`, which name no file. -/
def Path.StripsToDots (exts : List String) (p : Path) : Prop :=
  ∃ n, p.fileName = some n ∧
    (ExtensionRewrite.applyFirst (exts.map ExtensionRewrite.strip) n = "." ∨
      ExtensionRewrite.applyFirst (exts.map ExtensionRewrite.strip) n = "..")

namespace Settings

variable (s : Settings)

/-- With the default rules, the found file is where the written specifier leads, or that
path with a configured extension appended, unless the extension is stripped from its name
and leaves `.` or `..`. -/
theorem landing_candidate (hrules : s.extensionRewrites = s.extensions.map ExtensionRewrite.strip)
    {written : String} {found : Path} (hfound : found.IsNormal)
    (hname : Specifier.extension found.text ≠ Specifier.extension written →
      ¬ found.StripsToDots s.extensions) :
    found = s.landing written found ∨
      ∃ e ∈ s.extensions, found = Locate.withExtension (s.landing written found) e := by
  unfold landing
  split
  · exact .inl rfl
  rename_i hext
  have hname := hname hext
  obtain ⟨g, hg, rfl⟩ := hfound
  rw [hrules]
  rcases List.eq_nil_or_concat g with rfl | ⟨g0, n, rfl⟩
  · -- the root has no name for a rule to fit
    have htext : (Path.ofNames []).text = "" ++ "/" ++ "" := by simp [Path.ofNames]
    rw [htext, ExtensionRewrite.applyFirst_slash, ExtensionRewrite.applyFirst_empty]
    exact .inl (Path.normalize_ofNames hg).symm
  rw [List.concat_eq_append] at hg hname ⊢
  have hn : IsName n := hg n (by simp)
  have htext : (Path.ofNames (g0 ++ [n])).text = "" ++ "/" ++ "/".intercalate (g0 ++ [n]) := by
    simp [Path.ofNames]
  rw [htext, ExtensionRewrite.applyFirst_slash, ExtensionRewrite.applyFirst_intercalate_append]
  rcases ExtensionRewrite.applyFirst_strip s.extensions hn.no_slash with hkeep | ⟨e, he, happ, hne⟩
  · rw [hkeep, String.empty_append]
    exact .inl (Path.normalize_ofNames hg).symm
  · -- the stripped name is a name again, and the extension gives the found name back
    set n' := ExtensionRewrite.applyFirst (s.extensions.map ExtensionRewrite.strip) n
    have hfile := Path.fileName_ofNames_append hg
    have hn' : IsName n' := by
      refine ⟨hne, fun h => hname ⟨n, hfile, .inl h⟩, fun h => hname ⟨n, hfile, .inr h⟩,
        fun hs => ?_⟩
      exact hn.no_slash (by rw [← happ]; simp [hs])
    have hg' : ∀ x ∈ g0 ++ [n'], IsName x := by
      intro x hx
      rcases List.mem_append.1 hx with hx | hx
      · exact hg x (by simp [hx])
      · rw [List.mem_singleton.1 hx]
        exact hn'
    right
    refine ⟨e, he, ?_⟩
    rw [String.empty_append, show ("/" ++ "/".intercalate (g0 ++ [n']) : String) =
      (Path.ofNames (g0 ++ [n'])).text from rfl, Path.normalize_ofNames hg',
      Path.withExtension_ofNames_append, happ]

end Settings

namespace Locate

/-- The paths tried for a regular file at `base`, in order: the path itself, then the path
with each extension appended. -/
def probes (base : Path) (exts : List String) : List Path := base :: exts.map (withExtension base)

/-- No regular file is tried before `found` among the paths tried from `base`. -/
def FoundFirst (fs : FileSystem) (exts : List String) (base found : Path) : Prop :=
  ∀ g ∈ (probes base exts).takeWhile (· ≠ found), fs.isFile g = false

variable {fs : FileSystem} {exts : List String}

/-- The search for a regular file takes the first path tried that is one. -/
theorem resolveFile_eq_find? (base : Path) : resolveFile fs base exts = (probes base exts).find? fs.isFile := by
  unfold resolveFile probes
  cases h : fs.isFile base <;> simp [h]

/-- A first search stops at a member that passes when nothing in front of it does. -/
theorem find?_of_takeWhile {α : Type} [DecidableEq α] {p : α → Bool} {x : α} :
    ∀ {l : List α}, x ∈ l → p x = true → (∀ g ∈ l.takeWhile (· ≠ x), p g = false) →
      l.find? p = some x
  | a :: l, hx, hpx, hbefore => by
    by_cases hax : a = x
    · subst hax
      exact List.find?_cons_of_pos hpx
    · have htake : (a :: l).takeWhile (· ≠ x) = a :: l.takeWhile (· ≠ x) := by simp [hax]
      rw [htake] at hbefore
      rw [List.find?_cons_of_neg (by simp [hbefore a List.mem_cons_self])]
      exact find?_of_takeWhile ((List.mem_cons.1 hx).resolve_left (Ne.symm hax)) hpx
        fun g hg => hbefore g (List.mem_cons_of_mem _ hg)

/-- A regular file among the paths tried from `base` is found when no regular file is tried
before it. -/
theorem resolveFile_of_foundFirst {base found : Path} (hu : FoundFirst fs exts base found)
    (hcand : found = base ∨ ∃ e ∈ exts, found = withExtension base e)
    (hfile : fs.isFile found = true) : resolveFile fs base exts = some found := by
  have hmem : found ∈ probes base exts := by
    rcases hcand with rfl | ⟨e, he, rfl⟩
    · exact List.mem_cons_self
    · exact List.mem_cons_of_mem _ (List.mem_map_of_mem he)
  rw [resolveFile_eq_find?]
  exact find?_of_takeWhile hmem hfile hu

theorem resolveFileOrDir_of_resolveFile {base found : Path}
    (h : resolveFile fs base exts = some found) : resolveFileOrDir fs base exts = some found := by
  simp [resolveFileOrDir, h]

theorem resolveFileOrDir_of_directory {base : Path} (hfile : resolveFile fs base exts = none)
    (hdir : fs.isDir base = true) :
    resolveFileOrDir fs base exts = resolveDirectory fs base exts := by
  simp [resolveFileOrDir, hfile, hdir]

/-- A directory without `package.json` stands for its index. -/
theorem resolveDirectory_of_not_package {dir : Path}
    (h : fs.isFile (dir.join ⟨"package.json"⟩) = false) :
    resolveDirectory fs dir exts = resolveIndex fs dir exts := by
  simp [resolveDirectory, h]

end Locate

/-! ## Locating the written specifier again -/

namespace Settings

variable (s : Settings)

/-- With the default rules, the specifier written for a normal file, from a normal directory
that the file does not hold, marks as local plain parts joined by separators: `..` for each
step up, then names, the last one perhaps stripped of an extension. -/
theorem specifierOf_plainParts
    (hrules : s.extensionRewrites = s.extensions.map ExtensionRewrite.strip)
    {written : String} {file dir found : Path} (hdir : file.parent = some dir)
    (hdirn : dir.IsNormal) (hfound : found.IsNormal) (hnest : dir.startsWith found = false) :
    ∃ ps, Specifier.PlainParts ps ∧
      s.specifierOf written file found = Specifier.toLocal ("/".intercalate ps) := by
  obtain ⟨d, hd, rfl⟩ := hdirn
  obtain ⟨g, hg, rfl⟩ := hfound
  set k := Path.commonPrefixLength d g
  have hbelow : k < g.length := by
    refine lt_of_le_of_ne (Path.commonPrefixLength_le_right d g) fun heq => ?_
    rw [Path.startsWith_ofNames hd hg (Path.prefix_of_commonPrefixLength_eq heq)] at hnest
    cases hnest
  obtain ⟨ys, n, hys⟩ := (List.eq_nil_or_concat (g.drop k)).resolve_left (by simpa using hbelow)
  rw [List.concat_eq_append] at hys
  have hdrop : ∀ x ∈ ys ++ [n], IsName x := fun x hx => hg x (List.mem_of_mem_drop (hys ▸ hx))
  have hn : IsName n := hdrop n (by simp)
  have htext : (Path.relativeFrom s.cwd file (Path.ofNames g)).text =
      "/".intercalate ((List.replicate (d.length - k) ".." ++ ys) ++ [n]) := by
    rw [Path.relativeFrom_of_isNormal s.cwd hdir ⟨d, hd, rfl⟩ ⟨g, hg, rfl⟩,
      Path.relative_ofNames hd hg, hys, List.append_assoc]
  -- the written specifier is the way up and down, with the last name perhaps stripped
  obtain ⟨n', hn'ne, hn'slash, hout⟩ : ∃ n', n' ≠ "" ∧ '/' ∉ n'.toList ∧
      s.specifierOf written file (Path.ofNames g) =
        Specifier.toLocal ("/".intercalate ((List.replicate (d.length - k) ".." ++ ys) ++ [n'])) := by
    unfold specifierOf
    rw [htext]
    dsimp only
    split
    · rw [ExtensionRewrite.applyFirst_intercalate_append, hrules]
      rcases ExtensionRewrite.applyFirst_strip s.extensions hn.no_slash with hkeep | ⟨e, -, happ, hne⟩
      · exact ⟨n, hn.ne_empty, hn.no_slash, by rw [hkeep]⟩
      · exact ⟨_, hne, fun h => hn.no_slash (by rw [← happ]; simp [h]), rfl⟩
    · exact ⟨n, hn.ne_empty, hn.no_slash, rfl⟩
  have hplain : Specifier.PlainParts ((List.replicate (d.length - k) ".." ++ ys) ++ [n']) := by
    intro p hp
    simp only [List.mem_append, List.mem_singleton] at hp
    rcases hp with (hp | hp) | rfl
    · rw [List.eq_of_mem_replicate hp]
      exact ⟨by decide, by decide⟩
    · exact ⟨(hdrop p (by simp [hp])).ne_empty, (hdrop p (by simp [hp])).no_slash⟩
    · exact ⟨hn'ne, hn'slash⟩
  exact ⟨_, hplain, hout⟩

/-- With the default rules, the specifier written for a normal file, from a normal directory
that the file does not hold, is no URL: it never holds two separators in a row, and it starts
with a dot. -/
theorem specifierOf_not_url (hrules : s.extensionRewrites = s.extensions.map ExtensionRewrite.strip)
    {written : String} {file dir found : Path} (hdir : file.parent = some dir)
    (hdirn : dir.IsNormal) (hfound : found.IsNormal) (hnest : dir.startsWith found = false) :
    (Specifier.hasInfix "://".toList (s.specifierOf written file found).toList ||
      (s.specifierOf written file found).startsWith "node:" ||
      (s.specifierOf written file found).startsWith "data:") = false := by
  obtain ⟨ps, hplain, hout⟩ := s.specifierOf_plainParts hrules hdir hdirn hfound hnest
  obtain ⟨hhead, hchain⟩ := Specifier.intercalate_plain hplain
  obtain ⟨rest, hrest⟩ := Specifier.toList_toLocal ("/".intercalate ps)
  rw [hout, Specifier.not_hasInfix_url (Specifier.toLocal_noDoubleSlash hhead hchain)]
  -- a local specifier starts with a dot, so it starts with neither scheme
  simp only [Bool.false_or, Bool.or_eq_false_iff, String.startsWith_string_eq_false_iff, hrest]
  simp

/-- With the default rules, the specifier written for a normal file of a tree, from a normal
directory that the file does not hold, is located again as that file, when stripping the
extension from its name, if it is stripped, does not leave `.` or `..`, and no other regular
file is tried before it from the path the specifier leads to. -/
theorem specifierOf_relocates (t : FileTree)
    (hrules : s.extensionRewrites = s.extensions.map ExtensionRewrite.strip)
    {written : String} {file dir found : Path} (hdir : file.parent = some dir)
    (hdirn : dir.IsNormal) (hfound : found.IsNormal) (hfile : t.view.isFile found = true)
    (hnest : dir.startsWith found = false)
    (hname : Specifier.extension found.text ≠ Specifier.extension written →
      ¬ found.StripsToDots s.extensions)
    (hu : Locate.FoundFirst t.view s.extensions
      (dir.join ⟨s.specifierOf written file found⟩).normalize found) :
    Locator.node t.view (s.specifierOf written file found) dir s.extensions = some found := by
  have hlands : Specifier.hasLocalPrefix (s.specifierOf written file found) = true ∧
      (dir.join ⟨s.specifierOf written file found⟩).normalize = s.landing written found :=
    s.specifierOf_lands hdir hdirn hfound (by simp [hnest])
  obtain ⟨hlocal, hland⟩ := hlands
  have hpath : Locate.isPathLike (s.specifierOf written file found) = true := by
    simp only [Specifier.hasLocalPrefix, Bool.or_eq_true] at hlocal
    rcases hlocal with h | h <;> simp [Locate.isPathLike, h]
  rw [Locate.node_eq_of_isPathLike _ _ _ hpath (s.specifierOf_not_url hrules hdir hdirn hfound hnest),
    hland]
  rw [hland] at hu
  exact Locate.resolveFileOrDir_of_resolveFile
    (Locate.resolveFile_of_foundFirst hu (s.landing_candidate hrules hfound hname) hfile)

end Settings

theorem settingsFor_extensionRewrites (fs : FileSystem) (cfg : Config) (file procCwd : Path) :
    (cfg.settingsFor fs file procCwd).extensionRewrites =
      (cfg.layerFor file procCwd).extensionRewrites.getD
        ((cfg.settingsFor fs file procCwd).extensions.map ExtensionRewrite.strip) := rfl

/-- Re-locating a relative output finds the file it was written for. Over any file tree and
with any alias table, for a file taken against an absolute process directory and with a
parent directory, with the default rewrite rules and extensions without separators: when the
chain answers with the specifier the root strategy writes for the file it found, or with the
one the alias strategy writes for the file it found for a relative target, locating that
specifier again from the directory gives the file back, when the file does not hold the
directory, stripping the extension from its name (when the written one differs) does not
leave `.` or `..`, and no other regular file is tried before it from where the specifier
leads. -/
theorem relocated_output_finds_found (t : FileTree) (cfg : Config) (table : List Alias.AnyEntry)
    (spec : String) {f procCwd dir : Path} (hcwd : procCwd.isAbsolute = true)
    (hdir : (Path.resolve procCwd f).parent = some dir)
    (hext : ∀ e ∈ (cfg.settingsFor t.view (Path.resolve procCwd f) procCwd).extensions,
      '/' ∉ e.toList)
    (hrules : (cfg.layerFor (Path.resolve procCwd f) procCwd).extensionRewrites = none) :
    let file := Path.resolve procCwd f
    let s := cfg.settingsFor t.view file procCwd
    let loc := Locator.node t.view
    (∀ found out, (s.byTable table loc spec file).result = .ok none →
      s.rootHit loc spec = some found → (s.resolveTable table loc spec file).result = .ok (some out) →
      dir.startsWith found = false →
      (Specifier.extension found.text ≠ Specifier.extension spec →
        ¬ found.StripsToDots s.extensions) →
      Locate.FoundFirst t.view s.extensions (dir.join ⟨out⟩).normalize found →
      loc out dir s.extensions = some found) ∧
    (∀ e caps target found out, Alias.firstMatch table spec = some (e, caps) →
      e.substitute caps = .ok target → Specifier.isRelative target = true →
      s.aliasHit loc target file = some found →
      (s.resolveTable table loc spec file).result = .ok (some out) →
      dir.startsWith found = false →
      (Specifier.extension found.text ≠ Specifier.extension target →
        ¬ found.StripsToDots s.extensions) →
      Locate.FoundFirst t.view s.extensions (dir.join ⟨out⟩).normalize found →
      loc out dir s.extensions = some found) := by
  intro file s loc
  have hfile : file.isAbsolute = true := Path.resolve_isAbsolute f hcwd
  have hdirn : dir.IsNormal := (Path.normalize_isNormal (Path.join_isAbsolute f hcwd)).parent hdir
  have hstrip : s.extensionRewrites = s.extensions.map ExtensionRewrite.strip := by
    rw [settingsFor_extensionRewrites, hrules, Option.getD_none]
  refine ⟨?_, ?_⟩
  · intro found out hmiss hhit hout hnest hname hu
    rw [s.resolveTable_of_rootHit loc hmiss hhit, Except.ok.injEq, Option.some_inj] at hout
    subst hout
    have hfound := s.rootHit_isNormal t hext (settingsFor_root_isAbsolute t cfg hfile hcwd) hhit
    exact s.specifierOf_relocates t hstrip hdir hdirn hfound.1 hfound.2 hnest hname hu
  · intro e caps target found out hm hok hrel hhit hout hnest hname hu
    have hscwd : s.cwd.isAbsolute = true := settingsFor_cwd_isAbsolute t.view cfg hfile hcwd
    rw [s.resolveTable_of_relative_target loc hm hok hrel, Except.ok.injEq, Option.some_inj,
      Settings.localTarget_eq, hhit] at hout
    subst hout
    have hfound := s.aliasHit_isNormal t hext hscwd hhit
    exact s.specifierOf_relocates t hstrip hdir hdirn hfound.1 hfound.2 hnest hname hu

/-- The root `.` holds `lib.js` and `lib.mjs`, and `lib` written in `src/main.js` finds
`lib.js`: the chain writes `../lib`, which is located again as `lib.js`; `lib.mjs` is tried
only after it. -/
theorem relocated_output_finds_lib :
    let root := ["work", "project"]
    let t : FileTree := ⟨[(["work"], .directory), (root, .directory), (root ++ ["src"], .directory),
      (root ++ ["lib.js"], .file ""), (root ++ ["lib.mjs"], .file "")]⟩
    let cfg : Config := { base := { root := some ["."] } }
    let file := Path.resolve (Path.ofNames root) (Path.ofNames (root ++ ["src", "main.js"]))
    let s := cfg.settingsFor t.view file (Path.ofNames root)
    let loc := Locator.node t.view
    let dir := Path.ofNames (root ++ ["src"])
    let found := Path.ofNames (root ++ ["lib.js"])
    s.rootHit loc "lib" = some found ∧
    (s.resolveTable [] loc "lib" file).result = .ok (some "../lib") ∧
    t.view.isFile (Path.ofNames (root ++ ["lib.mjs"])) = true ∧
    Locate.FoundFirst t.view s.extensions (dir.join ⟨"../lib"⟩).normalize found ∧
    loc "../lib" dir s.extensions = some found := by
  intro root t cfg file s loc dir found
  have hroot : ∀ n ∈ root, IsName n := by decide
  have hdirn : ∀ n ∈ root ++ ["src"], IsName n := by decide
  have hfound : ∀ n ∈ root ++ ["lib.js"], IsName n := by decide
  have hcwd : (Path.ofNames root).isAbsolute = true := ofNames_isAbsolute _
  have hdir : file.parent = some dir := Path.parent_resolve_ofNames _ (root ++ ["src"]) (by decide)
  have hext : ∀ e ∈ s.extensions, '/' ∉ e.toList := Settings.defaultExtensions_no_slash
  have hroots : s.root = [Path.ofNames root] :=
    settingsFor_root_of_current _ cfg rfl ⟨root, hroot, rfl⟩
  have hhit : s.rootHit (Locator.node t.view) "lib" = some found := by
    rw [Settings.rootHit, hroots, show s.extensions = Settings.defaultExtensions from rfl,
      List.findSome?_cons, Locate.node_eq_of_isPathLike _ _ _ (by simp [Locate.isPathLike])
      (by simp; decide), Path.normalize_join_current_name hroot (by decide)]
    simp (disch := decide) only [Locate.resolveFileOrDir, Locate.resolveFile,
      FileTree.view_isFile_eq, FileTree.lookup_ofNames, Settings.defaultExtensions, List.map_cons,
      List.map_nil, Path.withExtension_ofNames_append, List.find?_cons, List.find?_nil]
    decide
  have hmiss : (s.byTable [] loc "lib" file).result = .ok none := rfl
  have hrules : s.extensionRewrites = Settings.defaultExtensions.map ExtensionRewrite.strip := rfl
  have hway : (Path.relativeFrom s.cwd file found).text = "../lib.js" := by
    rw [Path.relativeFrom_of_isNormal s.cwd hdir ⟨_, hdirn, rfl⟩ ⟨_, hfound, rfl⟩,
      Path.relative_ofNames hdirn hfound]
    decide
  have hspec : s.specifierOf "lib" file found = "../lib" := by
    rw [Settings.specifierOf, hway, hrules]
    decide +kernel
  have hres : (s.resolveTable [] loc "lib" file).result = .ok (some "../lib") := by
    rw [s.resolveTable_of_rootHit loc hmiss hhit, hspec]
  have hnest : dir.startsWith found = false := by
    rw [Path.startsWith, Path.isComponentPrefix, components_ofNames hdirn, components_ofNames hfound]
    decide
  have hmjs : t.view.isFile (Path.ofNames (root ++ ["lib.mjs"])) = true := by
    simp (disch := decide) only [FileTree.view_isFile_eq, FileTree.lookup_ofNames]
    decide
  -- `../lib` leads to `lib`, which is no file, and `lib.js` is tried next
  have hlead : (dir.join ⟨"../lib"⟩).normalize = Path.ofNames (root ++ ["lib"]) := by
    have hlands : (dir.join ⟨s.specifierOf "lib" file found⟩).normalize = s.landing "lib" found :=
      (s.specifierOf_lands hdir ⟨_, hdirn, rfl⟩ ⟨_, hfound, rfl⟩ fun h => by
        rw [hnest] at h
        cases h).2
    have hstrip : ExtensionRewrite.applyFirst s.extensionRewrites found.text =
        (Path.ofNames (root ++ ["lib"])).text := by
      rw [hrules]
      decide
    rw [hspec, Settings.landing, if_neg (by decide), hstrip] at hlands
    rw [hlands]
    exact Path.normalize_ofNames (by decide)
  have hfirst : Locate.FoundFirst t.view s.extensions (dir.join ⟨"../lib"⟩).normalize found := by
    have hprobes : (Locate.probes (Path.ofNames (root ++ ["lib"])) s.extensions).takeWhile
        (· ≠ found) = [Path.ofNames (root ++ ["lib"])] := by
      decide +kernel
    rw [hlead, Locate.FoundFirst, hprobes]
    intro g hg
    rw [List.mem_singleton.1 hg]
    simp (disch := decide) only [FileTree.view_isFile_eq, FileTree.lookup_ofNames]
    decide
  have hagain := (relocated_output_finds_found t cfg [] "lib" hcwd hdir hext rfl).1 found "../lib"
    hmiss hhit hres hnest (fun _ hstrips => by
      obtain ⟨n, hn, hdots⟩ := hstrips
      rw [Path.fileName_ofNames_append hfound, Option.some_inj] at hn
      subst hn
      revert hdots
      decide) hfirst
  exact ⟨hhit, hres, hmjs, hfirst, hagain⟩

/-- Re-locating the written specifier can miss the found file in two ways. A file without
extension beside the found file is tried first: with `lib/index` next to `lib/index.js`, the
root strategy finds `lib/index.js` as the index of `lib` and writes `./lib/index`, which is
located again as `lib/index`. And a name may lose its extension down to a dot: with the
extensions `.js` and `s`, the root strategy finds `x/..js` for `x/..j` written in
`src/main.js` and writes `../x/.`, which leads to the directory `x`, where nothing is found. -/
theorem relocation_finds_other_file :
    (let root := ["work", "project"]
    let t : FileTree := ⟨[(["work"], .directory), (root, .directory), (root ++ ["lib"], .directory),
      (root ++ ["lib", "index"], .file ""), (root ++ ["lib", "index.js"], .file "")]⟩
    let cfg : Config := { base := { root := some ["."] } }
    let file := Path.resolve (Path.ofNames root) (Path.ofNames (root ++ ["main.js"]))
    let s := cfg.settingsFor t.view file (Path.ofNames root)
    let found := Path.ofNames (root ++ ["lib", "index.js"])
    file.parent = some (Path.ofNames root) ∧
    (Path.ofNames root).startsWith found = false ∧
    s.rootHit (Locator.node t.view) "lib" = some found ∧
    (s.byRoot (Locator.node t.view) "lib" file).resolved = some "./lib/index" ∧
    Locator.node t.view "./lib/index" (Path.ofNames root) s.extensions =
      some (Path.ofNames (root ++ ["lib", "index"]))) ∧
    (let root := ["work", "project"]
    let t : FileTree := ⟨[(["work"], .directory), (root, .directory), (root ++ ["x"], .directory),
      (root ++ ["x", "..js"], .file "")]⟩
    let cfg : Config := { base := { root := some ["."], extensions := some [".js", "s"] } }
    let file := Path.resolve (Path.ofNames root) (Path.ofNames (root ++ ["src", "main.js"]))
    let s := cfg.settingsFor t.view file (Path.ofNames root)
    let dir := Path.ofNames (root ++ ["src"])
    let found := Path.ofNames (root ++ ["x", "..js"])
    file.parent = some dir ∧
    dir.startsWith found = false ∧
    s.rootHit (Locator.node t.view) "x/..j" = some found ∧
    (s.byRoot (Locator.node t.view) "x/..j" file).resolved = some "../x/." ∧
    Locator.node t.view "../x/." dir s.extensions = none) := by
  refine ⟨?_, ?_⟩
  · intro root t cfg file s found
    have hroot : ∀ n ∈ root, IsName n := by decide
    have hfound : ∀ n ∈ root ++ ["lib", "index.js"], IsName n := by decide
    have hparent : file.parent = some (Path.ofNames root) :=
      Path.parent_resolve_ofNames _ root (by decide)
    have hroots : s.root = [Path.ofNames root] :=
      settingsFor_root_of_current _ cfg rfl ⟨root, hroot, rfl⟩
    have hexts : s.extensions = Settings.defaultExtensions := rfl
    have hlib : ∀ n ∈ root ++ ["lib"], IsName n := by decide
    -- `lib` is a directory without `package.json`, so its first index is found
    have hnofile : Locate.resolveFile t.view (Path.ofNames (root ++ ["lib"]))
        Settings.defaultExtensions = none := by
      simp (disch := decide) only [Locate.resolveFile, FileTree.view_isFile_eq,
        FileTree.lookup_ofNames, Settings.defaultExtensions, List.map_cons, List.map_nil,
        Path.withExtension_ofNames_append, List.find?_cons, List.find?_nil]
      decide
    have hisdir : t.view.isDir (Path.ofNames (root ++ ["lib"])) = true := by
      simp (disch := decide) only [FileTree.view_isDir_eq, FileTree.lookup_ofNames]
      decide
    have hnopkg : t.view.isFile ((Path.ofNames (root ++ ["lib"])).join ⟨"package.json"⟩) = false := by
      rw [Path.ofNames_join_name hlib (by decide)]
      simp (disch := decide) only [FileTree.view_isFile_eq, FileTree.lookup_ofNames]
      decide
    have hhit : s.rootHit (Locator.node t.view) "lib" = some found := by
      rw [Settings.rootHit, hroots, hexts, List.findSome?_cons, Locate.node_eq_of_isPathLike _ _ _
        (by simp [Locate.isPathLike]) (by simp; decide), Path.normalize_join_current_name hroot
        (by decide), Locate.resolveFileOrDir_of_directory hnofile hisdir,
        Locate.resolveDirectory_of_not_package hnopkg]
      simp (disch := decide) only [Locate.resolveIndex, Path.ofNames_join_name,
        FileTree.view_isFile_eq, FileTree.lookup_ofNames, Settings.defaultExtensions, List.map_cons,
        List.map_nil, List.find?_cons, List.find?_nil]
      decide
    have hrules : s.extensionRewrites = Settings.defaultExtensions.map ExtensionRewrite.strip := rfl
    have hway : (Path.relativeFrom s.cwd file found).text = "lib/index.js" := by
      rw [Path.relativeFrom_of_isNormal s.cwd hparent ⟨_, hroot, rfl⟩ ⟨_, hfound, rfl⟩,
        Path.relative_ofNames hroot hfound]
      decide
    -- the specifier is located again as the file without extension, found first
    have hagain : Locator.node t.view "./lib/index" (Path.ofNames root) s.extensions =
        some (Path.ofNames (root ++ ["lib", "index"])) := by
      have hspec : ("./lib/index" : String) = "./" ++ "/".intercalate ["lib", "index"] := by decide
      rw [Locate.node_eq_of_isPathLike _ _ _ (by simp [Locate.isPathLike]) (by simp; decide), hspec,
        Path.normalize_join_current_names hroot (by decide)]
      refine Locate.resolveFileOrDir_of_resolveFile ?_
      simp (disch := decide) only [Locate.resolveFile, FileTree.view_isFile_eq,
        FileTree.lookup_ofNames]
      decide
    refine ⟨hparent, ?_, hhit, ?_, hagain⟩
    · rw [Path.startsWith, Path.isComponentPrefix, components_ofNames hroot, components_ofNames hfound]
      decide
    · have hext : (Specifier.extension found.text != Specifier.extension "lib") = true := by decide
      have hstrip : ExtensionRewrite.applyFirst (Settings.defaultExtensions.map ExtensionRewrite.strip)
          "lib/index.js" = "lib/index" := by decide
      rw [Settings.byRoot_resolved, hhit, Option.map_some, Settings.specifierOf, hway, hrules]
      simp only [hext, if_true, hstrip]
      simp [Specifier.toLocal, Specifier.hasLocalPrefix, String.startsWith_string_iff]
  · intro root t cfg file s dir found
    have hroot : ∀ n ∈ root, IsName n := by decide
    have hdirn : ∀ n ∈ root ++ ["src"], IsName n := by decide
    have hfound : ∀ n ∈ root ++ ["x", "..js"], IsName n := by decide
    have hparent : file.parent = some dir :=
      Path.parent_resolve_ofNames _ (root ++ ["src"]) (by decide)
    have hroots : s.root = [Path.ofNames root] :=
      settingsFor_root_of_current _ cfg rfl ⟨root, hroot, rfl⟩
    have hexts : s.extensions = [".js", "s"] := rfl
    -- `x/..j` is no file, `x/..j.js` neither, and `x/..js` is
    have hhit : s.rootHit (Locator.node t.view) "x/..j" = some found := by
      have hspec : ("./x/..j" : String) = "./" ++ "/".intercalate ["x", "..j"] := by decide
      rw [Settings.rootHit, hroots, hexts, List.findSome?_cons, Locate.node_eq_of_isPathLike _ _ _
        (by simp [Locate.isPathLike]) (by simp; decide), show ("./" ++ "x/..j" : String) = "./x/..j"
        from rfl, hspec, Path.normalize_join_current_names hroot (by decide),
        show root ++ ["x", "..j"] = (root ++ ["x"]) ++ ["..j"] by simp]
      simp (disch := decide) only [Locate.resolveFileOrDir, Locate.resolveFile,
        FileTree.view_isFile_eq, FileTree.lookup_ofNames, List.map_cons, List.map_nil,
        Path.withExtension_ofNames_append, List.find?_cons, List.find?_nil]
      decide
    have hrules : s.extensionRewrites = [".js", "s"].map ExtensionRewrite.strip := rfl
    -- the first rule that fits `..js` strips `.js` and leaves `.`
    have hway : (Path.relativeFrom s.cwd file found).text = "../x/..js" := by
      rw [Path.relativeFrom_of_isNormal s.cwd hparent ⟨_, hdirn, rfl⟩ ⟨_, hfound, rfl⟩,
        Path.relative_ofNames hdirn hfound]
      decide
    have hnest : dir.startsWith found = false := by
      rw [Path.startsWith, Path.isComponentPrefix, components_ofNames hdirn, components_ofNames hfound]
      decide
    have hout : (s.byRoot (Locator.node t.view) "x/..j" file).resolved = some "../x/." := by
      rw [Settings.byRoot_resolved, hhit, Option.map_some, Settings.specifierOf, hway, hrules]
      decide +kernel
    -- `../x/.` leads from `src` to the directory `x`, which holds neither index
    have hlead : (dir.join ⟨"../x/."⟩).normalize = Path.ofNames (root ++ ["x"]) := by
      rw [Path.normalize_ofNames_join hdirn (by simp [Path.isAbsolute]),
        show ("../x/." : String) = "/".intercalate ["..", "x", "."] by decide,
        textComponents_intercalate (by decide)]
      decide +kernel
    have hx : ∀ n ∈ root ++ ["x"], IsName n := by decide
    have hnofile : Locate.resolveFile t.view (Path.ofNames (root ++ ["x"])) [".js", "s"] = none := by
      simp (disch := decide) only [Locate.resolveFile, FileTree.view_isFile_eq,
        FileTree.lookup_ofNames, List.map_cons, List.map_nil, Path.withExtension_ofNames_append,
        List.find?_cons, List.find?_nil]
      decide
    have hisdir : t.view.isDir (Path.ofNames (root ++ ["x"])) = true := by
      simp (disch := decide) only [FileTree.view_isDir_eq, FileTree.lookup_ofNames]
      decide
    have hnopkg : t.view.isFile ((Path.ofNames (root ++ ["x"])).join ⟨"package.json"⟩) = false := by
      rw [Path.ofNames_join_name hx (by decide)]
      simp (disch := decide) only [FileTree.view_isFile_eq, FileTree.lookup_ofNames]
      decide
    have hagain : Locator.node t.view "../x/." dir s.extensions = none := by
      rw [Locate.node_eq_of_isPathLike _ _ _ (by simp [Locate.isPathLike]) (by simp; decide), hlead,
        hexts, Locate.resolveFileOrDir_of_directory hnofile hisdir,
        Locate.resolveDirectory_of_not_package hnopkg]
      simp (disch := decide) only [Locate.resolveIndex, Path.ofNames_join_name,
        FileTree.view_isFile_eq, FileTree.lookup_ofNames, List.map_cons, List.map_nil,
        List.find?_cons, List.find?_nil]
      decide
    exact ⟨hparent, hnest, hhit, hout, hagain⟩

end ImportPath
