import ImportPath.Alias.Template

/-!
# Template expansion is one scan

A template is expanded in two stages: it is cut at every doubled backslash, the references
`\N` are expanded inside each piece, and the pieces are joined with single backslashes. This
module reads the same expansion as one pass from left to right (`Template.scan`): a doubled
backslash gives one backslash, a backslash and a maximal run of digits gives the text of that
group, and any other backslash stays as it is.

The two agree because a cut falls only between two backslashes, where no reference can
continue: a run of digits after a backslash ends inside its piece, so expanding a piece sees
the same run the scan sees (`pieces_dropWhile_isDigit`, `takeWhile_isDigit_of_pieces`).

A reference's text is inserted as it is, and the scan goes on in the template after the
digits, never in the inserted text (`scan_reference_append`).

Main statement: `Template.expand_is_one_scan`.
-/

namespace ImportPath

namespace Template

/-- The template read once from left to right: a doubled backslash gives one backslash, a
backslash and a run of digits gives the text of that group, any other backslash stays. -/
def scan (groups : List (Option String)) : List Char → List Char
  | [] => []
  | '\\' :: '\\' :: rest => '\\' :: scan groups rest
  | '\\' :: rest =>
    let ds := rest.takeWhile Char.isDigit
    if ds.isEmpty then '\\' :: scan groups rest
    else groupText groups ds ++ scan groups (rest.dropWhile Char.isDigit)
  | c :: rest => c :: scan groups rest
termination_by cs => cs.length
decreasing_by
  all_goals simp_wf
  all_goals first
    | omega
    | exact Nat.lt_succ_of_le (dropWhile_length_le _ _)
    | exact dropWhile_length_le _ _

variable (groups : List (Option String))

/-! ## The steps of the scan and of the cut -/

theorem scan_backslash_backslash (rest : List Char) :
    scan groups ('\\' :: '\\' :: rest) = '\\' :: scan groups rest := by
  rw [scan]

/-- A backslash not followed by another one: a reference when digits follow, else kept. -/
theorem scan_backslash {rest : List Char} (h : rest.head? ≠ some '\\') :
    scan groups ('\\' :: rest) =
      if (rest.takeWhile Char.isDigit).isEmpty then '\\' :: scan groups rest
      else groupText groups (rest.takeWhile Char.isDigit) ++
        scan groups (rest.dropWhile Char.isDigit) := by
  rw [scan]
  intro rest' hrest
  subst hrest
  exact h rfl

theorem scan_cons {c : Char} (hc : c ≠ '\\') (rest : List Char) :
    scan groups (c :: rest) = c :: scan groups rest := by
  rw [scan]
  · intro rest' hc' _
    exact hc hc'
  · intro hc'
    exact hc hc'

theorem expandRefs_nil : expandRefs groups [] = [] := by
  rw [expandRefs]

theorem expandRefs_backslash (p : List Char) :
    expandRefs groups ('\\' :: p) =
      if (p.takeWhile Char.isDigit).isEmpty then '\\' :: expandRefs groups p
      else groupText groups (p.takeWhile Char.isDigit) ++
        expandRefs groups (p.dropWhile Char.isDigit) := by
  rw [expandRefs]

theorem expandRefs_cons {c : Char} (hc : c ≠ '\\') (p : List Char) :
    expandRefs groups (c :: p) = c :: expandRefs groups p := by
  rw [expandRefs]
  intro hc'
  exact hc hc'

theorem pieces_nil : pieces [] = [[]] := by
  rw [pieces]

theorem pieces_backslash_backslash (rest : List Char) :
    pieces ('\\' :: '\\' :: rest) = [] :: pieces rest := by
  rw [pieces]

/-- A character that does not start a doubled backslash joins the first piece. -/
theorem pieces_cons {c : Char} {rest p : List Char} {ps : List (List Char)}
    (hc : ¬(c = '\\' ∧ rest.head? = some '\\')) (h : pieces rest = p :: ps) :
    pieces (c :: rest) = (c :: p) :: ps := by
  rw [pieces]
  · rw [h]
  · intro rest' hc' hrest
    subst hrest
    exact hc ⟨hc', rfl⟩

/-- The cut always gives at least one piece. -/
theorem exists_pieces_eq_cons : ∀ cs : List Char, ∃ p ps, pieces cs = p :: ps
  | [] => ⟨[], [], pieces_nil⟩
  | c :: rest => by
    by_cases hcut : c = '\\' ∧ rest.head? = some '\\'
    · obtain ⟨rfl, hr⟩ := hcut
      obtain ⟨r, rfl⟩ := List.head?_eq_some_iff.1 hr
      exact ⟨[], pieces r, pieces_backslash_backslash r⟩
    · obtain ⟨p, ps, h⟩ := exists_pieces_eq_cons rest
      exact ⟨c :: p, ps, pieces_cons hcut h⟩

/-- A digit run at the start ends inside the first piece. -/
theorem takeWhile_isDigit_of_pieces {cs p : List Char} {ps : List (List Char)}
    (h : pieces cs = p :: ps) : cs.takeWhile Char.isDigit = p.takeWhile Char.isDigit := by
  induction cs generalizing p ps with
  | nil =>
    rw [pieces_nil] at h
    cases h
    rfl
  | cons c rest ih =>
    by_cases hcut : c = '\\' ∧ rest.head? = some '\\'
    · -- a cut right at the start: the first piece is empty, and `\` is no digit
      obtain ⟨rfl, hr⟩ := hcut
      obtain ⟨r, rfl⟩ := List.head?_eq_some_iff.1 hr
      rw [pieces_backslash_backslash] at h
      cases h
      rfl
    · obtain ⟨p', ps', h'⟩ := exists_pieces_eq_cons rest
      rw [pieces_cons hcut h'] at h
      cases h
      by_cases hd : c.isDigit = true
      · rw [List.takeWhile_cons_of_pos hd, List.takeWhile_cons_of_pos hd, ih h']
      · rw [List.takeWhile_cons_of_neg hd, List.takeWhile_cons_of_neg hd]

/-- Dropping a digit run at the start only shortens the first piece. -/
theorem pieces_dropWhile_isDigit {cs p : List Char} {ps : List (List Char)}
    (h : pieces cs = p :: ps) : pieces (cs.dropWhile Char.isDigit) = p.dropWhile Char.isDigit :: ps := by
  induction cs generalizing p ps with
  | nil =>
    rw [pieces_nil] at h
    cases h
    rfl
  | cons c rest ih =>
    by_cases hcut : c = '\\' ∧ rest.head? = some '\\'
    · obtain ⟨rfl, hr⟩ := hcut
      obtain ⟨r, rfl⟩ := List.head?_eq_some_iff.1 hr
      rw [pieces_backslash_backslash] at h
      cases h
      rw [List.dropWhile_cons_of_neg (by decide), pieces_backslash_backslash]
      rfl
    · obtain ⟨p', ps', h'⟩ := exists_pieces_eq_cons rest
      rw [pieces_cons hcut h'] at h
      cases h
      by_cases hd : c.isDigit = true
      · rw [List.dropWhile_cons_of_pos hd, List.dropWhile_cons_of_pos hd, ih h']
      · rw [List.dropWhile_cons_of_neg hd, List.dropWhile_cons_of_neg hd, pieces_cons hcut h']

/-! ## Joining the expanded pieces -/

/-- The pieces joined with backslashes: the first, then a backslash before each other. -/
theorem flatten_intersperse_cons (f : List Char → List Char) (p : List Char)
    (ps : List (List Char)) :
    (((p :: ps).map f).intersperse ['\\']).flatten =
      f p ++ (ps.map fun q => '\\' :: f q).flatten := by
  induction ps generalizing p with
  | nil => simp
  | cons q qs ih =>
    rw [List.map_cons, List.map_cons, List.intersperse_cons_cons, List.flatten_cons,
      List.flatten_cons, ← List.map_cons, ih]
    simp

/-- Expanding the pieces and joining them is the scan. -/
theorem flatten_pieces_eq_scan (cs : List Char) :
    (((pieces cs).map (expandRefs groups)).intersperse ['\\']).flatten = scan groups cs := by
  fun_induction scan groups cs with
  | case1 => simp [pieces_nil, expandRefs_nil]
  | case2 rest ih =>
    obtain ⟨p, ps, h⟩ := exists_pieces_eq_cons rest
    rw [pieces_backslash_backslash, h, List.map_cons, List.map_cons, List.intersperse_cons_cons,
      List.flatten_cons, List.flatten_cons, ← List.map_cons, ← h, ih, expandRefs_nil]
    rfl
  | case3 rest hrest ds hds ih =>
    obtain ⟨p, ps, h⟩ := exists_pieces_eq_cons rest
    have hcut : ¬('\\' = '\\' ∧ rest.head? = some '\\') := fun ⟨_, hr⟩ => by
      obtain ⟨r, rfl⟩ := List.head?_eq_some_iff.1 hr
      exact hrest r rfl
    -- no digits follow, in the piece as in the template: the backslash stays
    have hp : (p.takeWhile Char.isDigit).isEmpty = true := by
      rw [← takeWhile_isDigit_of_pieces h]
      exact hds
    rw [pieces_cons hcut h, flatten_intersperse_cons, expandRefs_backslash, if_pos hp, ← ih, h,
      flatten_intersperse_cons]
    rfl
  | case4 rest hrest ds hds ih =>
    obtain ⟨p, ps, h⟩ := exists_pieces_eq_cons rest
    have hcut : ¬('\\' = '\\' ∧ rest.head? = some '\\') := fun ⟨_, hr⟩ => by
      obtain ⟨r, rfl⟩ := List.head?_eq_some_iff.1 hr
      exact hrest r rfl
    -- the digits end inside the first piece, which keeps what follows them
    have htake := takeWhile_isDigit_of_pieces h
    have hp : ¬(p.takeWhile Char.isDigit).isEmpty = true := by
      rw [← htake]
      exact hds
    rw [pieces_cons hcut h, flatten_intersperse_cons, expandRefs_backslash, if_neg hp, ← ih,
      pieces_dropWhile_isDigit h, flatten_intersperse_cons, List.append_assoc, ← htake]
  | case5 c rest hcut hc ih =>
    obtain ⟨p, ps, h⟩ := exists_pieces_eq_cons rest
    have hcut' : ¬(c = '\\' ∧ rest.head? = some '\\') := fun ⟨hc', _⟩ => hc hc'
    rw [pieces_cons hcut' h, flatten_intersperse_cons, expandRefs_cons groups hc, ← ih, h,
      flatten_intersperse_cons]
    rfl

/-! ## The expansion -/

/-- Expanding a template is scanning it once from left to right. -/
theorem expand_eq_scan (template : String) :
    expand template groups = String.ofList (scan groups template.toList) := by
  rw [expand, flatten_pieces_eq_scan]

/-- A reference followed by text that does not go on with a digit gives the group's text, and
the scan goes on in the text after it. -/
theorem scan_reference_append {ds rest : List Char} (hne : ds ≠ [])
    (hds : ∀ d ∈ ds, d.isDigit = true) (hrest : ∀ c r, rest = c :: r → c.isDigit = false) :
    scan groups ('\\' :: (ds ++ rest)) = groupText groups ds ++ scan groups rest := by
  obtain ⟨d, ds', rfl⟩ := List.exists_cons_of_ne_nil hne
  have hd : d ≠ '\\' := by
    rintro rfl
    exact absurd (hds '\\' (by simp)) (by decide)
  have hnone : rest.takeWhile Char.isDigit = [] := by
    cases rest with
    | nil => rfl
    | cons c r => exact List.takeWhile_cons_of_neg (by simp [hrest c r rfl])
  have htake : (d :: ds' ++ rest).takeWhile Char.isDigit = d :: ds' := by
    rw [List.takeWhile_append_of_pos hds, hnone, List.append_nil]
  have hdrop : (d :: ds' ++ rest).dropWhile Char.isDigit = rest := by
    rw [List.dropWhile_append_of_pos hds]
    cases rest with
    | nil => rfl
    | cons c r => exact List.dropWhile_cons_of_neg (by simp [hrest c r rfl])
  rw [scan_backslash groups (by simpa using hd), htake, hdrop, if_neg (by simp)]

theorem expand_reference_append {ds : List Char} (rest : String) (hne : ds ≠ [])
    (hds : ∀ d ∈ ds, d.isDigit = true) (hrest : ∀ c r, rest.toList = c :: r → c.isDigit = false) :
    expand ("\\" ++ String.ofList ds ++ rest) groups =
      String.ofList (groupText groups ds) ++ expand rest groups := by
  have htext : ("\\" ++ String.ofList ds ++ rest).toList = '\\' :: (ds ++ rest.toList) := by
    simp
  rw [expand_eq_scan, expand_eq_scan, htext, scan_reference_append groups hne hds hrest,
    String.ofList_append]

/-- Template expansion is a single left-to-right scan: a doubled backslash gives one
backslash, a backslash and a maximal run of digits gives that group's text (nothing when the
group does not exist, did not take part, or its number is at least `2^64`), and any other
backslash stays. The text of a group is inserted as it is: what follows the reference is
expanded on its own, never together with the inserted text. -/
theorem expand_is_one_scan :
    (∀ (template : String) (groups : List (Option String)),
      expand template groups = String.ofList (scan groups template.toList)) ∧
    (∀ (groups : List (Option String)) (ds : List Char) (rest : String), ds ≠ [] →
      (∀ d ∈ ds, d.isDigit = true) → (∀ c r, rest.toList = c :: r → c.isDigit = false) →
      expand ("\\" ++ String.ofList ds ++ rest) groups =
        String.ofList (groupText groups ds) ++ expand rest groups) :=
  ⟨fun template groups => expand_eq_scan groups template,
    fun groups _ rest hne hds hrest => expand_reference_append groups rest hne hds hrest⟩

/-- Group 1 holds `\2`, which is inserted as it is; the `\2` of the template after it is a
reference of its own. -/
theorem expand_inserts_group_verbatim :
    ['1'] ≠ [] ∧ (∀ d ∈ ['1'], d.isDigit = true) ∧
      (∀ c r, ("\\2" : String).toList = c :: r → c.isDigit = false) ∧
      expand ("\\" ++ String.ofList ['1'] ++ "\\2") [none, some "\\2"] =
        String.ofList (groupText [none, some "\\2"] ['1']) ++ expand "\\2" [none, some "\\2"] := by
  have hne : ['1'] ≠ [] := by simp
  have hds : ∀ d ∈ ['1'], d.isDigit = true := by
    intro d hd
    rw [List.mem_singleton.1 hd]
    rfl
  have hrest : ∀ c r, ("\\2" : String).toList = c :: r → c.isDigit = false := by
    intro c r h
    have htext : ("\\2" : String).toList = ['\\', '2'] := rfl
    rw [htext, List.cons.injEq] at h
    rw [← h.1]
    rfl
  exact ⟨hne, hds, hrest, expand_is_one_scan.2 _ _ _ hne hds hrest⟩

end Template

end ImportPath
