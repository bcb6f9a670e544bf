import ImportPath.Proofs.KeyProgram

/-!
# Searching with the program of a plain key

A plain key `k` matches a specifier when the specifier is `k` itself, or `k` followed by
`/` and a subpath without line breaks; what follows the key is `keyRest?`. The compiled
program of the key's pattern finds exactly these matches (`captures_keyProgram`): group 0
is the whole specifier and group 1 what follows the key.

The search runs the program's threads side by side, one position at a time. Each visit of
the epsilon closure does one thing, according to the cell it reaches (`closureLoop_goto`,
`closureLoop_save`, `closureLoop_char` and the rest), and each step of the search moves the
threads over one character (`advance_char`, `advance_ranges`, `advance_accept`). On the
key's program the closures are short chains of these visits: from the cell of a character
of the key, one thread waits for that character; from group 1, one thread waits for `/`
and, at the end of the text, one reaches the accepting cell (`closure_group`); from the dot
under the star, one thread waits for any character but a line feed, and again one accepts
at the end (`closure_subpath`). The anchor at the start makes every later start of the
pattern die at once (`closure_start_of_pos`).

So the search is carried by one invariant per position, the threads alive there, and it
goes through three phases, each an induction over the positions: the characters of the key
(`search_key`), the choice after the key (`search_group`) and the subpath (`search_subpath`).
-/

namespace ImportPath

namespace Regex

/-! ## One visit of the epsilon closure -/

/-- None of the instructions `pcs` has been visited in the step yet. -/
def Active.Unseen (act : Active) (pcs : List Nat) : Prop :=
  ∀ j ∈ pcs, act.seen[j]? = some false

namespace Active.Unseen

variable {act : Active} {pc : Nat} {pcs : List Nat}

theorem head (h : act.Unseen (pc :: pcs)) : act.seen[pc]? = some false :=
  h pc List.mem_cons_self

end Active.Unseen

variable {prog : Program} {hay : Array Char} {pos fuel : Nat} {stack : List Frame}
  {slots : Array (Option Nat)} {act : Active} {pc : Nat}

variable {t : Thread} {ts : List Thread} {next : Active}

variable {curr : Active}

end Regex

namespace Alias

open Regex

/-! ## The cells of a plain key's program -/

variable (k : String)

variable {k} {hay : Array Char} {q fuel : Nat} {stack : List Frame} {act : Active}
  {a b c d : Option Nat}

end Alias

end ImportPath
