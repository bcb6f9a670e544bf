import ImportPath.Proofs.RelativeRoundTrip

/-!
# The nearest directory holding a marker

Going up from a path one parent at a time gives its chain of ancestors, the path itself
first (`Path.ancestors`); the chain ends at a path that has no parent, the root or the empty
path. It is finite because a parent is always a shorter text than its path
(`Path.parent_text_length_lt`): the parent keeps the head of the path and the parts before
its last component, and that component is not empty.

The search for a marker walks this chain with a budget of steps taken from the length of
the start, and the budget never runs out before the chain does
(`Path.length_ancestors_le`). So the search answers the first ancestor, in the order of the
chain, in which the marker exists, and nothing when none has it
(`FileSystem.findUp_eq_find?`); a nearer ancestor that holds the marker always wins over a
farther one (`FileSystem.findUp_nearest_marker`).
-/

namespace ImportPath

namespace Path

/-! ## A parent is shorter than its path -/

theorem length_intercalate_le_of_prefix {xs ys : List String} (h : xs <+: ys) :
    ("/".intercalate xs).length ≤ ("/".intercalate ys).length := by
  obtain ⟨zs, rfl⟩ := h
  have hle := (intercalate_isPrefix xs zs).length_le
  rwa [String.length_toList, String.length_toList] at hle

theorem length_intercalate_concat (xs : List String) (y : String) :
    ("/".intercalate xs).length + y.length ≤ ("/".intercalate (xs ++ [y])).length := by
  rw [intercalate_append_singleton]
  split
  · simp_all
  · simp only [String.length_append]
    omega

/-- The last component and the parts before it make up the parts kept, and the last one is
not empty. -/
theorem lastPart?_some {p : Path} {last : String} {before : List String}
    (h : p.lastPart? = some (last, before)) :
    dropBlankTail p.parts = before ++ [last] ∧ last ≠ "" := by
  unfold lastPart? at h
  split at h
  · cases h
  · rename_i l rest hrev
    cases h
    have hdrop : dropBlankTail p.parts = rest.reverse ++ [last] := by
      rw [← List.reverse_reverse (dropBlankTail p.parts), hrev]
      simp
    refine ⟨hdrop, fun hl => ?_⟩
    have hblank := not_isBlankPart_of_dropBlankTail hdrop
    simp [hl, isBlankPart, partComponent] at hblank

/-- A parent is a shorter text than its path. -/
theorem parent_text_length_lt {p q : Path} (h : p.parent = some q) :
    q.text.length < p.text.length := by
  unfold parent at h
  split at h
  · rename_i last before hlast
    cases h
    obtain ⟨hdrop, hne⟩ := lastPart?_some hlast
    have hpos : 0 < last.length := by
      have hnil : last.toList ≠ [] := by simpa using hne
      rw [← String.length_toList]
      exact List.length_pos_of_ne_nil hnil
    -- the parent is the head and a prefix of the parts, which loses the last one
    calc (ofParts p.headText (dropBlankTail before)).text.length
        = p.headText.length + ("/".intercalate (dropBlankTail before)).length := by
          simp [ofParts]
      _ ≤ p.headText.length + ("/".intercalate before).length := by
          have := length_intercalate_le_of_prefix (dropBlankTail_isPrefix before)
          omega
      _ < p.headText.length + (("/".intercalate before).length + last.length) := by omega
      _ ≤ p.headText.length + ("/".intercalate (before ++ [last])).length := by
          have := length_intercalate_concat before last
          omega
      _ ≤ p.headText.length + ("/".intercalate p.parts).length := by
          have := length_intercalate_le_of_prefix (hdrop ▸ dropBlankTail_isPrefix p.parts)
          omega
      _ = p.text.length := by
          rw [← body_eq_intercalate_parts, text_eq_headText_append_body p, String.length_append]
  · split at h
    · -- a path of `.` alone has the empty path as parent
      cases h
      rename_i hlead
      rcases (leadsWithCurrent_iff p.text).1 hlead with h | ⟨r, h⟩ <;>
        · have hlen : p.text.length = p.text.toList.length := String.length_toList.symm
          rw [hlen, h]
          simp [empty]
    · cases h

/-! ## The chain of ancestors -/

/-- A path followed by its parent, its parent's parent, and so on, up to the first path
that has no parent. -/
def ancestors (p : Path) : List Path :=
  p :: (p.parent.attach.map fun up => ancestors up.1).getD []
termination_by p.text.length
decreasing_by exact parent_text_length_lt up.2

theorem ancestors_of_parent_eq_some {p up : Path} (h : p.parent = some up) :
    p.ancestors = p :: up.ancestors := by
  rw [ancestors]
  simp [h]

theorem ancestors_of_parent_eq_none {p : Path} (h : p.parent = none) : p.ancestors = [p] := by
  have hnone : p.parent.attach = none := Option.attach_eq_none_iff.2 h
  rw [ancestors, hnone]
  rfl

/-- A path has at most one more ancestor than its text has characters. -/
theorem length_ancestors_le (p : Path) : p.ancestors.length ≤ p.text.length + 1 := by
  cases h : p.parent with
  | none => simp [ancestors_of_parent_eq_none h]
  | some up =>
    have hlt := parent_text_length_lt h
    have ih := length_ancestors_le up
    rw [ancestors_of_parent_eq_some h, List.length_cons]
    omega
termination_by p.text.length
decreasing_by exact parent_text_length_lt h

end Path

/-! ## The search for a marker -/

namespace FileSystem

variable (fs : FileSystem) (marker : String)

/-- With a budget no smaller than the chain, the search finds the first ancestor holding
the marker. -/
theorem findUpFrom_eq_find? :
    ∀ (fuel : Nat) (dir : Path), dir.ancestors.length ≤ fuel →
      fs.findUpFrom marker fuel dir =
        dir.ancestors.find? (fun d => fs.existsAt (d.join ⟨marker⟩))
  | 0, dir, hfuel => by
    rw [Path.ancestors] at hfuel
    simp at hfuel
  | fuel + 1, dir, hfuel => by
    unfold findUpFrom
    cases hup : dir.parent with
    | none =>
      rw [Path.ancestors_of_parent_eq_none hup]
      by_cases hat : fs.existsAt (dir.join ⟨marker⟩) <;> simp [hat]
    | some up =>
      rw [Path.ancestors_of_parent_eq_some hup] at hfuel ⊢
      have ih := findUpFrom_eq_find? fuel up (by simpa using hfuel)
      by_cases hat : fs.existsAt (dir.join ⟨marker⟩) <;> simp [hat, ih]

/-- The search answers the first path of the chain of ancestors in which the marker
exists. -/
theorem findUp_eq_find? (start : Path) :
    fs.findUp start marker = start.ancestors.find? (fun d => fs.existsAt (d.join ⟨marker⟩)) :=
  findUpFrom_eq_find? fs marker _ start (by have := start.length_ancestors_le; omega)

/-- The search for a marker always ends, and it answers the nearest holder: it gives `d`
exactly when `d` is on the chain of ancestors of the start, the marker exists in `d`, and in
no path nearer on the chain; it gives nothing exactly when no path of the chain holds the
marker. -/
theorem findUp_nearest_marker (start : Path) :
    (∀ d, fs.findUp start marker = some d ↔
      ∃ nearer farther, start.ancestors = nearer ++ d :: farther ∧
        fs.existsAt (d.join ⟨marker⟩) = true ∧
        ∀ e ∈ nearer, fs.existsAt (e.join ⟨marker⟩) = false) ∧
    (fs.findUp start marker = none ↔
      ∀ e ∈ start.ancestors, fs.existsAt (e.join ⟨marker⟩) = false) := by
  rw [findUp_eq_find?]
  refine ⟨fun d => ?_, ?_⟩
  · rw [List.find?_eq_some_iff_append]
    constructor
    · rintro ⟨hd, nearer, farther, hsplit, hnearer⟩
      exact ⟨nearer, farther, hsplit, hd, fun e he => by simpa using hnearer e he⟩
    · rintro ⟨nearer, farther, hsplit, hd, hnearer⟩
      exact ⟨hd, nearer, farther, hsplit, fun e he => by simpa using hnearer e he⟩
  · rw [List.find?_eq_none]
    simp

end FileSystem

end ImportPath
