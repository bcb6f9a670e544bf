import ImportPath.Regex.Parse
import ImportPath.Regex.Program

/-!
# Searching a text with a program

The search runs all paths of the program side by side, one step per character (a Pike
machine). The threads of a step are kept in order of preference; a thread that reaches
the accepting instruction ends the step, dropping every thread of lower preference, so
the match found is the leftmost one and, among those, the one the pattern prefers
(leftmost-first, as backtracking would find it). While nothing has matched, a fresh
thread starts at every position, behind all others; once something has matched, the
search goes on only while threads of higher preference are alive.

Each thread carries the positions its path recorded. Following the edges that consume
nothing from one instruction (the epsilon closure) is a depth-first walk that visits
each instruction at most once per step and undoes the positions it recorded on the way
back.

## What this module delivers

- `Regex`, a compiled pattern with its source text, and `Regex.compile`, which refuses
  a pattern with the first `ParseError` met.
- `Regex.captures`, the capture groups of the first match in a text: group 0 is the
  whole match, and a group that took no part in it is `none`.
-/

namespace ImportPath

/-- A compiled regular expression with the text it was compiled from. -/
structure Regex where
  source : String
  program : Regex.Program
  deriving Inhabited

namespace Regex

/-- A thread of the search: a consuming or final instruction, and the positions its path
recorded. -/
structure Thread where
  pc : Nat
  slots : Array (Option Nat)

/-- The threads of one step in order of preference, and the instructions already
visited in it. -/
structure Active where
  seen : Array Bool
  threads : Array Thread

/-- No thread yet, for a program of `n` instructions. -/
def Active.empty (n : Nat) : Active := ⟨Array.replicate n false, #[]⟩

/-- Work left in an epsilon closure: an instruction to visit, or a recorded position to
put back. -/
inductive Frame where
  | visit (pc : Nat)
  | restore (slot : Nat) (value : Option Nat)

/-- Walks the epsilon closure at position `pos`, adding each consuming or final
instruction reached, with the positions recorded on the way, as a thread. -/
def closureLoop (prog : Program) (hay : Array Char) (pos : Nat) :
    Nat → List Frame → Array (Option Nat) → Active → Active
  | 0, _, _, act => act
  | _ + 1, [], _, act => act
  | fuel + 1, .restore s v :: stack, slots, act =>
    closureLoop prog hay pos fuel stack (slots.setIfInBounds s v) act
  | fuel + 1, .visit pc :: stack, slots, act =>
    if act.seen[pc]?.getD true then closureLoop prog hay pos fuel stack slots act
    else
      let act := { act with seen := act.seen.setIfInBounds pc true }
      match prog.insts[pc]? with
      | some (.goto next none) => closureLoop prog hay pos fuel (.visit next :: stack) slots act
      | some (.goto next (some l)) =>
        if l.holds hay pos then closureLoop prog hay pos fuel (.visit next :: stack) slots act
        else closureLoop prog hay pos fuel stack slots act
      | some (.split ts rev) =>
        let order := if rev then ts.toList.reverse else ts.toList
        closureLoop prog hay pos fuel (order.map .visit ++ stack) slots act
      | some (.save s next) =>
        match slots[s]? with
        | some old =>
          closureLoop prog hay pos fuel (.visit next :: .restore s old :: stack)
            (slots.setIfInBounds s (some pos)) act
        | none => closureLoop prog hay pos fuel (.visit next :: stack) slots act
      | some _ => closureLoop prog hay pos fuel stack slots
          { act with threads := act.threads.push ⟨pc, slots⟩ }
      | none => closureLoop prog hay pos fuel stack slots act

/-- Enough steps for any epsilon closure of the program. -/
def Program.closureFuel (prog : Program) : Nat :=
  prog.insts.foldl (fun acc i => acc + i.edgeCount + 2) 2

/-- Adds the epsilon closure of instruction `pc` at position `pos`. -/
def closure (prog : Program) (hay : Array Char) (pos pc : Nat) (slots : Array (Option Nat))
    (act : Active) : Active :=
  closureLoop prog hay pos prog.closureFuel [.visit pc] slots act

/-- Moves the threads of a step over the character at `pos`, in order of preference,
into the next step. A thread at the accepting instruction stops the step and gives its
positions. -/
def advance (prog : Program) (hay : Array Char) (pos : Nat) :
    List Thread → Active → Option (Array (Option Nat)) × Active
  | [], next => (none, next)
  | t :: ts, next =>
    match prog.insts[t.pc]?, hay[pos]? with
    | some .accept, _ => (some t.slots, next)
    | some (.char c target), some h =>
      if h = c then advance prog hay pos ts (closure prog hay (pos + 1) target t.slots next)
      else advance prog hay pos ts next
    | some (.ranges rs target), some h =>
      if rs.any (fun r => r.1 ≤ h.toNat && h.toNat ≤ r.2) then
        advance prog hay pos ts (closure prog hay (pos + 1) target t.slots next)
      else advance prog hay pos ts next
    | _, _ => advance prog hay pos ts next

/-- The search from position `pos` on, with the threads `curr` and the positions of the
best match so far. -/
def searchLoop (prog : Program) (hay : Array Char) :
    Nat → Nat → Active → Option (Array (Option Nat)) → Option (Array (Option Nat))
  | 0, _, _, found => found
  | fuel + 1, pos, curr, found =>
    if curr.threads.isEmpty && (found.isSome || (prog.anchored && pos > 0)) then found
    else
      let curr := match found with
        | none => closure prog hay pos prog.start (Array.replicate (2 * prog.groups) none) curr
        | some _ => curr
      let (hit, next) := advance prog hay pos curr.threads.toList (Active.empty prog.insts.size)
      let found := hit.orElse fun _ => found
      if pos ≥ hay.size then found else searchLoop prog hay fuel (pos + 1) next found

/-- The recorded positions of the first match in a text. -/
def Program.search (prog : Program) (hay : Array Char) : Option (Array (Option Nat)) :=
  searchLoop prog hay (hay.size + 2) 0 (Active.empty prog.insts.size) none

end Regex

namespace Regex

/-- Compiles a pattern, or gives the first reason to refuse it. -/
def compile (source : String) : Except ParseError Regex := do
  let (node, _) ← parse source
  pure ⟨source, ← Program.ofNode node⟩

/-- The capture groups of the first match in `text`, or none when nothing matches:
group 0 is the whole match, then each group of the pattern in order, `none` for a group
that took no part in the match. -/
def captures (r : Regex) (text : String) : Option (List (Option String)) :=
  let hay := text.toList.toArray
  (r.program.search hay).map fun slots =>
    (List.range r.program.groups).map fun i =>
      match slots[2 * i]?, slots[2 * i + 1]? with
      | some (some s), some (some e) => some (String.ofList (hay.extract s e).toList)
      | _, _ => none

end Regex

end ImportPath
