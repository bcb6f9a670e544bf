import ImportPath.Settings

/-!
# Absolute paths stay absolute

Joining onto an absolute directory, normalizing and taking the parent all keep a path
absolute, so every directory the settings of a file are worked out from is absolute once
the working directory of the process is: the configured working directory, the nearest
`package.json` directory, and the current file itself (`settingsFor_cwd_isAbsolute`).
-/

namespace ImportPath

namespace Path

/-- Text after an absolute path's own text keeps it absolute. -/
theorem isAbsolute_append {p : Path} (t : String) (hp : p.isAbsolute = true) :
    (Path.mk (p.text ++ t)).isAbsolute = true := by
  simp only [isAbsolute, String.startsWith_string_iff, String.toList_append] at hp ⊢
  exact hp.trans (List.prefix_append _ _)

theorem rootDir_isAbsolute : rootDir.isAbsolute = true := by
  simp [rootDir, isAbsolute]

/-- Joining onto an absolute directory gives an absolute path. -/
theorem join_isAbsolute {p : Path} (q : Path) (hp : p.isAbsolute = true) :
    (p.join q).isAbsolute = true := by
  unfold join
  split
  · assumption
  · split
    · exact isAbsolute_append _ hp
    · rw [String.append_assoc]
      exact isAbsolute_append _ hp

/-- An absolute path reads as the root first. -/
theorem components_of_isAbsolute {p : Path} (hp : p.isAbsolute = true) :
    p.components = .root :: p.parts.filterMap partComponent := by
  simp only [components, headComponents, hp, ↓reduceIte, List.cons_append, List.nil_append]

/-- The parent of an absolute path is absolute. -/
theorem parent_isAbsolute {p q : Path} (hp : p.isAbsolute = true) (hq : p.parent = some q) :
    q.isAbsolute = true := by
  unfold parent at hq
  have hlead : p.leadsWithCurrent = false := by
    simp only [leadsWithCurrent, hp, Bool.not_true, Bool.false_and]
  have hhead : p.headText = "/" := by simp only [headText, hp, ↓reduceIte]
  split at hq
  · cases hq
    rw [ofParts, hhead]
    exact isAbsolute_append _ rootDir_isAbsolute
  · simp [hlead] at hq

end Path

namespace Lexical

/-- Once at the root, reading more components never leaves it. -/
theorem foldl_step_absolute (cs : List Component) {l : Lexical} (hl : l.absolute = true) :
    (cs.foldl step l).absolute = true := by
  induction cs generalizing l with
  | nil => exact hl
  | cons c cs ih =>
    apply ih
    cases c with
    | root => rfl
    | current => exact hl
    | parent =>
      simp only [step]
      split
      · split <;> exact hl
      · split <;> simp_all
    | name s => exact hl

theorem toPath_isAbsolute {l : Lexical} (hl : l.absolute = true) : l.toPath.isAbsolute = true := by
  rw [toPath, hl, if_pos rfl]
  exact Path.isAbsolute_append _ Path.rootDir_isAbsolute

end Lexical

namespace Path

/-- Normalizing keeps a path absolute. -/
theorem normalize_isAbsolute {p : Path} (hp : p.isAbsolute = true) :
    p.normalize.isAbsolute = true := by
  unfold normalize Lexical.ofComponents
  rw [components_of_isAbsolute hp, List.foldl_cons]
  exact Lexical.toPath_isAbsolute (Lexical.foldl_step_absolute _ rfl)

/-- A path taken against an absolute directory is absolute. -/
theorem resolve_isAbsolute {base : Path} (p : Path) (hb : base.isAbsolute = true) :
    (resolve base p).isAbsolute = true :=
  normalize_isAbsolute (join_isAbsolute p hb)

end Path

namespace FileSystem

/-- The walk up from an absolute directory stops at an absolute directory. -/
theorem findUpFrom_isAbsolute (fs : FileSystem) (marker : String) :
    ∀ (fuel : Nat) {dir found : Path}, dir.isAbsolute = true →
      fs.findUpFrom marker fuel dir = some found → found.isAbsolute = true
  | 0, _, _, _, h => by cases h
  | fuel + 1, dir, found, hdir, h => by
    unfold findUpFrom at h
    split at h
    · cases h
      exact hdir
    · split at h
      · rename_i up hup
        exact findUpFrom_isAbsolute fs marker fuel (Path.parent_isAbsolute hdir hup) h
      · cases h

theorem findUp_isAbsolute (fs : FileSystem) {marker : String} {start found : Path}
    (hstart : start.isAbsolute = true) (h : fs.findUp start marker = some found) :
    found.isAbsolute = true := by
  unfold findUp at h
  exact findUpFrom_isAbsolute fs marker (start.text.length + 2) hstart h

end FileSystem

namespace Settings

/-- Every working directory setting names an absolute directory for an absolute file in
an absolute process directory. -/
theorem workDir_isAbsolute (fs : FileSystem) {file procCwd : Path} (w : WorkDir)
    (hfile : file.isAbsolute = true) (hcwd : procCwd.isAbsolute = true) :
    (workDir fs file procCwd w).isAbsolute = true := by
  unfold workDir
  split
  · exact hcwd
  · exact Path.resolve_isAbsolute _ hcwd
  · -- the nearest `package.json` directory lies above the file, else the process directory
    split
    · rename_i dir hdir
      obtain ⟨up, hup, hfound⟩ := Option.bind_eq_some_iff.1 hdir
      exact FileSystem.findUp_isAbsolute fs (Path.parent_isAbsolute hfile hup) hfound
    · exact hcwd

end Settings

/-- The layer of settings that applies to a file: the base, with the first override whose
scope holds the file laid over it. -/
def Config.layerFor (cfg : Config) (file procCwd : Path) : Layer :=
  match cfg.overrides.find? (·.scope.contains file procCwd) with
  | some o => cfg.base.overlay o.layer
  | none => cfg.base

theorem settingsFor_cwd (fs : FileSystem) (cfg : Config) (file procCwd : Path) :
    (cfg.settingsFor fs file procCwd).cwd =
      Settings.workDir fs file procCwd ((cfg.layerFor file procCwd).cwd.getD .process) := rfl

/-- The working directory of the settings of an absolute file, in an absolute process
directory, is absolute. -/
theorem settingsFor_cwd_isAbsolute (fs : FileSystem) (cfg : Config) {file procCwd : Path}
    (hfile : file.isAbsolute = true) (hcwd : procCwd.isAbsolute = true) :
    (cfg.settingsFor fs file procCwd).cwd.isAbsolute = true := by
  rw [settingsFor_cwd]
  exact Settings.workDir_isAbsolute fs _ hfile hcwd

end ImportPath
