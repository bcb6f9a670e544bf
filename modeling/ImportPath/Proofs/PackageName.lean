import ImportPath.Locate.Node

/-!
# Package names of bare specifiers

A bare specifier names a package and, after a separator, a path inside it. An unscoped name
ends at the first `/`; a scoped name `@scope/name` keeps its first `/` and ends at the
second. The split cuts where it says (`splitBare_cutsAtSlash`) and loses nothing
(`splitBare_cuts_package_name`): the name and, when there is one, a `/` and the subpath give
the specifier back; the name holds every separator before the cut, so an unscoped name holds
no `/` and a scoped one at most one; and when the specifier has fewer separators than the cut
needs, the name is all of it.

The cut is read on characters. A text with a separator is the part before its first
separator, the separator and the rest (`exists_first_slash`). The first separator is where
`findIdx?` stops (`findIdx?_first_slash`), and the separators listed with their positions
start with it (`filter_zipIdx_first_slash`), so the second one listed is the first separator
of the rest.
-/

namespace ImportPath

namespace Locate

/-- `name` and `sub` cut `s` at its `n`-th separator: `s` is the name, that separator and
`sub`, and the name holds the `n - 1` separators before it. When `s` has fewer than `n`
separators there is no cut: the name is all of `s` and `sub` is none. -/
def CutsAtSlash (n : Nat) (s : String) : String × Option String → Prop
  | (name, some rest) => s = name ++ "/" ++ rest ∧ name.toList.count '/' + 1 = n
  | (name, none) => name = s ∧ s.toList.count '/' < n

namespace CutsAtSlash

variable {n : Nat} {s : String} {cut : String × Option String}

/-- The name, and a separator and the rest when there is one, give the text back. -/
theorem rejoin (h : CutsAtSlash n s cut) : cut.1 ++ (cut.2.map ("/" ++ ·)).getD "" = s := by
  obtain ⟨name, _ | rest⟩ := cut
  · simpa [CutsAtSlash] using h.1
  · simpa [CutsAtSlash, String.append_assoc] using h.1.symm

/-- The name holds fewer than `n` separators. -/
theorem count_lt (h : CutsAtSlash n s cut) : cut.1.toList.count '/' < n := by
  obtain ⟨name, _ | rest⟩ := cut
  · obtain ⟨rfl, hcount⟩ := h
    exact hcount
  · obtain ⟨-, hcount⟩ := h
    show name.toList.count '/' < n
    omega

end CutsAtSlash

/-! ## The separators of a text -/

/-- A text with a separator is what comes before its first one, the separator, and the rest. -/
theorem exists_first_slash {cs : List Char} (h : '/' ∈ cs) :
    ∃ a b, cs = a ++ '/' :: b ∧ '/' ∉ a := by
  obtain ⟨a, b, ha, hcs, -⟩ := List.exists_erase_eq h
  exact ⟨a, b, hcs, ha⟩

theorem findIdx?_slash_of_not_mem {cs : List Char} (h : '/' ∉ cs) :
    cs.findIdx? (· == '/') = none := by
  rw [List.findIdx?_eq_none_iff]
  intro c hc
  have hne : c ≠ '/' := fun hslash => h (hslash ▸ hc)
  simpa using hne

/-- The search for a separator stops at the first one. -/
theorem findIdx?_first_slash {a b : List Char} (ha : '/' ∉ a) :
    (a ++ '/' :: b).findIdx? (· == '/') = some a.length := by
  rw [List.findIdx?_append, findIdx?_slash_of_not_mem ha]
  simp [List.findIdx?_cons]

theorem filter_zipIdx_slash_of_not_mem {cs : List Char} (h : '/' ∉ cs) (k : Nat) :
    (cs.zipIdx k).filter (·.1 == '/') = [] := by
  rw [List.filter_eq_nil_iff]
  intro x hx
  have hne : x.1 ≠ '/' := fun hslash => h (hslash ▸ List.fst_mem_of_mem_zipIdx hx)
  simpa using hne

/-- The separators of a text, listed with their positions, start with its first one. -/
theorem filter_zipIdx_first_slash {a b : List Char} (ha : '/' ∉ a) (k : Nat) :
    ((a ++ '/' :: b).zipIdx k).filter (·.1 == '/') =
      ('/', k + a.length) :: (b.zipIdx (k + a.length + 1)).filter (·.1 == '/') := by
  rw [List.zipIdx_append, List.filter_append, filter_zipIdx_slash_of_not_mem ha, List.zipIdx_cons,
    List.filter_cons_of_pos (by simp), List.nil_append]

theorem count_first_slash {a b : List Char} (ha : '/' ∉ a) :
    (a ++ '/' :: b).count '/' = b.count '/' + 1 := by
  rw [List.count_append, List.count_cons_self, List.count_eq_zero_of_not_mem ha]
  omega

/-! ## Where the split cuts -/

/-- Cutting at the position of a separator keeps what stands before it and after it. -/
theorem take_drop_at_slash (a b : List Char) :
    (a ++ '/' :: b).take a.length = a ∧ (a ++ '/' :: b).drop (a.length + 1) = b :=
  ⟨List.take_left' rfl, by simp⟩

/-- An unscoped specifier with a separator is cut at the first one. -/
theorem splitBare_of_first_slash {s : String} (hat : s.startsWith "@" = false) {a b : List Char}
    (hs : s.toList = a ++ '/' :: b) (ha : '/' ∉ a) :
    splitBare s = (String.ofList a, some (String.ofList b)) := by
  simp only [splitBare, hat, Bool.false_eq_true, if_false]
  rw [hs, findIdx?_first_slash ha]
  simp only [(take_drop_at_slash a b).1, (take_drop_at_slash a b).2]

/-- A scoped specifier with two separators is cut at the second one. -/
theorem splitBare_of_second_slash {s : String} (hat : s.startsWith "@" = true) {a b c : List Char}
    (hs : s.toList = a ++ '/' :: (b ++ '/' :: c)) (ha : '/' ∉ a) (hb : '/' ∉ b) :
    splitBare s = (String.ofList (a ++ '/' :: b), some (String.ofList c)) := by
  simp only [splitBare, hat, if_true]
  rw [hs, filter_zipIdx_first_slash ha, filter_zipIdx_first_slash hb]
  -- the second separator listed sits one past the scope and the name
  have hpos : 0 + a.length + 1 + b.length = (a ++ '/' :: b).length := by simp; omega
  rw [hpos, show a ++ '/' :: (b ++ '/' :: c) = (a ++ '/' :: b) ++ '/' :: c by simp]
  simp only [(take_drop_at_slash (a ++ '/' :: b) c).1, (take_drop_at_slash (a ++ '/' :: b) c).2]

/-- An unscoped specifier is cut at its first separator. -/
theorem splitBare_unscoped {s : String} (hat : s.startsWith "@" = false) :
    CutsAtSlash 1 s (splitBare s) := by
  by_cases hmem : '/' ∈ s.toList
  · obtain ⟨a, b, hs, ha⟩ := exists_first_slash hmem
    rw [splitBare_of_first_slash hat hs ha]
    refine ⟨?_, by simp [List.count_eq_zero_of_not_mem ha]⟩
    rw [← String.toList_inj, hs]
    simp
  · simp only [splitBare, hat, Bool.false_eq_true, if_false, findIdx?_slash_of_not_mem hmem]
    exact ⟨rfl, by simp [List.count_eq_zero_of_not_mem hmem]⟩

/-- A scoped specifier is cut at its second separator. -/
theorem splitBare_scoped {s : String} (hat : s.startsWith "@" = true) :
    CutsAtSlash 2 s (splitBare s) := by
  by_cases hmem : '/' ∈ s.toList
  · obtain ⟨a, b, hs, ha⟩ := exists_first_slash hmem
    by_cases hmem' : '/' ∈ b
    · -- the second separator is the first one after the scope's
      obtain ⟨b₁, b₂, rfl, hb₁⟩ := exists_first_slash hmem'
      rw [splitBare_of_second_slash hat hs ha hb₁]
      refine ⟨?_, by simp [List.count_append, List.count_eq_zero_of_not_mem ha,
        List.count_eq_zero_of_not_mem hb₁]⟩
      rw [← String.toList_inj, hs]
      simp
    · -- a single separator leaves the scoped name whole
      simp only [splitBare, hat, if_true, hs, filter_zipIdx_first_slash ha,
        filter_zipIdx_slash_of_not_mem hmem']
      exact ⟨rfl, by rw [hs, count_first_slash ha, List.count_eq_zero_of_not_mem hmem']; omega⟩
  · simp only [splitBare, hat, if_true, filter_zipIdx_slash_of_not_mem hmem]
    exact ⟨rfl, by simp [List.count_eq_zero_of_not_mem hmem]⟩

/-- A scoped specifier is cut at its second separator, any other at its first. -/
theorem splitBare_cutsAtSlash (s : String) :
    CutsAtSlash (if s.startsWith "@" then 2 else 1) s (splitBare s) := by
  cases hat : s.startsWith "@"
  · exact splitBare_unscoped hat
  · exact splitBare_scoped hat

/-- A bare specifier splits into its package name and subpath without loss: the name, and a
`/` and the subpath when there is one, give the specifier back; a scoped name ends before the
second separator and any other name before the first, the name being the whole specifier
when it has fewer; so an unscoped name holds no `/` and a scoped one at most one. -/
theorem splitBare_cuts_package_name (s : String) :
    (splitBare s).1 ++ ((splitBare s).2.map ("/" ++ ·)).getD "" = s ∧
      CutsAtSlash (if s.startsWith "@" then 2 else 1) s (splitBare s) ∧
      (splitBare s).1.toList.count '/' < (if s.startsWith "@" then 2 else 1) := by
  have hcut := splitBare_cutsAtSlash s
  exact ⟨hcut.rejoin, hcut, hcut.count_lt⟩

/-- A scoped name with an empty package part keeps its separator, and the cut is the next one. -/
example : splitBare "@s//x" = ("@s/", some "x") := by decide +kernel

end Locate

end ImportPath
