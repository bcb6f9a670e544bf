import ImportPath.Regex.Syntax
import ImportPath.Regex.Error

/-!
# Matching programs

A pattern is compiled into a program of instructions, one automaton state each (the
Thompson construction). Each construct is compiled into a fragment with an entry and an
exit instruction; fragments are joined by pointing the exit of one at the entry of the
next. A choice point (`split`) lists its targets in order of preference, or in reverse
order for lazy repetition.

The whole pattern sits in capture group 0, followed by the accepting instruction. Group
`i` records its bounds in slots `2i` and `2i + 1`.

A program may take at most ten mebibytes: 32 bytes per instruction, 16 per capture
group, 8 per class range, 4 per choice target and, per group name, its length in bytes
and 4 more. A pattern whose program would be larger is refused, as soon as the limit is
passed while compiling.

## What this module delivers

- `Regex.Inst` and `Regex.Program`.
- `Regex.Program.ofNode`, the compiler, refusing oversized programs with
  `ParseError.programTooBig`.
- `Regex.Node.stateCount`, the exact number of instructions a node compiles to, which
  lets a pattern far beyond the limit be refused before anything is built.
-/

namespace ImportPath

namespace Regex

/-- One instruction of a matching program. -/
inductive Inst where
  /-- Consume the character `c`, then go on at `next`. -/
  | char (c : Char) (next : Nat)
  /-- Consume a character in one of the ranges, then go on at `next`. -/
  | ranges (rs : List (Nat × Nat)) (next : Nat)
  /-- Try each target, the first one first (the last one first when `reverse`). -/
  | split (targets : Array Nat) (reverse : Bool)
  /-- Go on at `next` when the assertion, if any, holds. -/
  | goto (next : Nat) (look : Option Look)
  /-- Record the position in a slot, then go on at `next`. -/
  | save (slot : Nat) (next : Nat)
  /-- A dead end. -/
  | fail
  /-- The pattern has matched. -/
  | accept
  deriving Inhabited

/-- The number of edges of an instruction that the epsilon closure may follow. -/
def Inst.edgeCount : Inst → Nat
  | .split ts _ => ts.size
  | .goto _ _ => 1
  | .save _ _ => 1
  | _ => 0

/-- The bytes an instruction takes beyond its own: 8 per class range, 4 per choice
target. -/
def Inst.extraBytes : Inst → Nat
  | .ranges rs _ => 8 * rs.length
  | .split ts _ => 4 * ts.size
  | _ => 0

/-- The instruction with its exit pointed at `dst`; a choice point gains `dst` as its
last target. -/
def Inst.retarget : Inst → Nat → Inst
  | .split ts r, dst => .split (ts.push dst) r
  | .char c _, dst => .char c dst
  | .ranges rs _, dst => .ranges rs dst
  | .goto _ l, dst => .goto dst l
  | .save s _, dst => .save s dst
  | i, _ => i

/-- A compiled pattern: its instructions, the entry, the number of capture groups
(group 0 included), and whether every match must start at the beginning. -/
structure Program where
  insts : Array Inst
  start : Nat
  groups : Nat
  anchored : Bool
  deriving Inhabited

/-- The largest program accepted, in bytes. -/
def sizeLimit : Nat := 10 * Nat.pow 2 20

/-- A compiled piece of a pattern: where it starts and where it ends. -/
structure Fragment where
  entry : Nat
  exit : Nat

/-- A program under construction, with the bytes it uses beyond its instructions and
groups. -/
structure Builder where
  insts : Array Inst := #[]
  extra : Nat := 0
  groups : Nat := 0

/-- The bytes a program under construction takes. -/
def Builder.memory (b : Builder) : Nat :=
  b.insts.size * 32 + b.groups * 16 + b.extra

/-- Building a program, stopping when it grows too large. -/
abbrev Assembly := StateT Builder (Except ParseError)

namespace Assembly

/-- Refuses a program above the size limit. -/
def checkSize : Assembly Unit := do
  if (← get).memory > sizeLimit then throw .programTooBig

/-- Appends an instruction and gives its index. -/
def add (i : Inst) : Assembly Nat := do
  let id ← modifyGet fun b =>
    (b.insts.size, { b with insts := b.insts.push i, extra := b.extra + i.extraBytes })
  checkSize
  pure id

/-- Points the exit of instruction `src` at `dst`; a choice point gains a target. -/
def patch (src dst : Nat) : Assembly Unit := do
  let grew ← modifyGet fun b =>
    let isSplit := match b.insts[src]? with
      | some (.split _ _) => true
      | _ => false
    (isSplit, { b with insts := b.insts.modify src (·.retarget dst),
                       extra := if isSplit then b.extra + 4 else b.extra })
  if grew then checkSize

/-- A fragment of one instruction. -/
def single (i : Inst) : Assembly Fragment := do
  let id ← add i
  pure ⟨id, id⟩

/-- The fragment that matches the empty text. -/
def empty : Assembly Fragment := single (.goto 0 none)

/-- A new choice point without targets. -/
def split (greedy : Bool) : Assembly Nat := add (.split #[] !greedy)

/-- Compiles `body` again `n` more times after `f`, each copy following the last; a
loop over the builder, so that long repetitions need no deep recursion. -/
def chainLoop (body : Assembly Fragment) :
    Nat → Fragment → Builder → Except ParseError (Fragment × Builder)
  | 0, f, b => .ok (f, b)
  | n + 1, f, b =>
    let step : Assembly Fragment := do
      let g ← body
      patch f.exit g.entry
      pure ⟨f.entry, g.exit⟩
    match step.run b with
    | .ok (f, b) => chainLoop body n f b
    | .error e => .error e

/-- Compiles `body` again `n` more times after `f`, each copy following the last. -/
def chain (n : Nat) (body : Assembly Fragment) (f : Fragment) : Assembly Fragment :=
  fun b => chainLoop body n f b

/-- `n` copies of `body` in sequence. -/
def exactly (n : Nat) (body : Assembly Fragment) : Assembly Fragment :=
  match n with
  | 0 => empty
  | n + 1 => do chain n body (← body)

/-- `body?` -/
def zeroOrOne (greedy : Bool) (body : Assembly Fragment) : Assembly Fragment := do
  let sp ← split greedy
  let f ← body
  let e ← add (.goto 0 none)
  patch sp f.entry
  patch sp e
  patch f.exit e
  pure ⟨sp, e⟩

/-- `body{n,}`. Without a body that matches the empty text, `body*` is one choice point
that loops; with one, it is `(body+)?`, which keeps the order of preference right. -/
def atLeast (n : Nat) (greedy bodyMatchesEmpty : Bool) (body : Assembly Fragment) :
    Assembly Fragment :=
  match n with
  | 0 =>
    if !bodyMatchesEmpty then do
      let sp ← split greedy
      let f ← body
      patch sp f.entry
      patch f.exit sp
      pure ⟨sp, sp⟩
    else do
      let f ← body
      let plus ← split greedy
      patch f.exit plus
      patch plus f.entry
      let question ← split greedy
      let e ← add (.goto 0 none)
      patch question f.entry
      patch question e
      patch plus e
      pure ⟨question, e⟩
  | 1 => do
    let f ← body
    let sp ← split greedy
    patch f.exit sp
    patch sp f.entry
    pure ⟨f.entry, sp⟩
  | n + 2 => do
    let pre ← exactly (n + 1) body
    let last ← body
    let sp ← split greedy
    patch pre.exit last.entry
    patch last.exit sp
    patch sp last.entry
    pure ⟨pre.entry, sp⟩

/-- The optional copies of a bounded repetition, each behind its own choice point, all
leaving to `e`; `prev` is the exit of the copy before. A loop over the builder. -/
def optionalLoop (greedy : Bool) (body : Assembly Fragment) (e : Nat) :
    Nat → Nat → Builder → Except ParseError (Nat × Builder)
  | 0, prev, b => .ok (prev, b)
  | n + 1, prev, b =>
    let step : Assembly Nat := do
      let sp ← split greedy
      let f ← body
      patch prev sp
      patch sp f.entry
      patch sp e
      pure f.exit
    match step.run b with
    | .ok (prev, b) => optionalLoop greedy body e n prev b
    | .error err => .error err

/-- The optional copies of a bounded repetition, all leaving to `e`. -/
def optionalCopies (greedy : Bool) (body : Assembly Fragment) (e : Nat) (n prev : Nat) :
    Assembly Nat :=
  fun b => optionalLoop greedy body e n prev b

/-- `body{lo,hi}` with `lo < hi`. -/
def bounded (lo hi : Nat) (greedy : Bool) (body : Assembly Fragment) : Assembly Fragment := do
  let pre ← exactly lo body
  let e ← add (.goto 0 none)
  let last ← optionalCopies greedy body e (hi - lo) pre.exit
  patch last e
  pure ⟨pre.entry, e⟩

/-- A repetition of `body`. -/
def repetition (lo : Nat) (hi : Option Nat) (greedy bodyMatchesEmpty : Bool)
    (body : Assembly Fragment) : Assembly Fragment :=
  match lo, hi with
  | 0, some 1 => zeroOrOne greedy body
  | lo, none => atLeast lo greedy bodyMatchesEmpty body
  | lo, some hi => if lo = hi then exactly lo body else bounded lo hi greedy body

/-- Capture group `index` around `body`. -/
def capture (index : Nat) (name : Option String) (body : Assembly Fragment) :
    Assembly Fragment := do
  let b ← get
  if index ≥ b.groups then
    let named := match name with
      | some n => n.utf8ByteSize + 4
      | none => 0
    set { b with groups := index + 1, extra := b.extra + named }
  let s ← add (.save (2 * index) 0)
  let f ← body
  let e ← add (.save (2 * index + 1) 0)
  patch s f.entry
  patch f.exit e
  pure ⟨s, e⟩

/-- Joins the remaining branches of a choice to its choice point `sp` and end `e`. -/
def joinBranches (sp e : Nat) : List (Assembly Fragment) → Assembly Unit
  | [] => pure ()
  | body :: rest => do
    let f ← body
    patch sp f.entry
    patch f.exit e
    joinBranches sp e rest

mutual

/-- Compiles a node. -/
def node : Node → Assembly Fragment
  | .empty => empty
  | .char c => single (.char c 0)
  | .cls c => if c.ranges.isEmpty then single .fail else single (.ranges c.ranges 0)
  | .look l => single (.goto 0 (some l))
  | .rep lo hi greedy sub => repetition lo hi greedy sub.matchesEmpty (node sub)
  | .group index name sub => capture index name (node sub)
  | .concat subs => sequence subs
  | .alternation subs => choice subs

/-- Compiles the parts of a sequence, each following the last. -/
def sequence : List Node → Assembly Fragment
  | [] => empty
  | n :: ns => do
    let f ← node n
    sequenceAfter f ns

/-- Compiles the rest of a sequence after the fragment `f`. -/
def sequenceAfter (f : Fragment) : List Node → Assembly Fragment
  | [] => pure f
  | n :: ns => do
    let g ← node n
    patch f.exit g.entry
    sequenceAfter ⟨f.entry, g.exit⟩ ns

/-- Compiles a choice: the branches in order behind one choice point. -/
def choice : List Node → Assembly Fragment
  | [] => single .fail
  | [n] => node n
  | a :: b :: rest => do
    let fa ← node a
    let fb ← node b
    let sp ← add (.split #[] false)
    let e ← add (.goto 0 none)
    patch sp fa.entry
    patch fa.exit e
    patch sp fb.entry
    patch fb.exit e
    joinBranches sp e (branches rest)
    pure ⟨sp, e⟩

/-- The compilations of the remaining branches, not yet run. -/
def branches : List Node → List (Assembly Fragment)
  | [] => []
  | n :: ns => node n :: branches ns

end

end Assembly

mutual

/-- The number of instructions a node compiles to. -/
def Node.stateCount : Node → Nat
  | .rep lo hi _ sub =>
    let k := sub.stateCount
    match lo, hi with
    | 0, some 1 => k + 2
    | 0, none => if sub.matchesEmpty then k + 3 else k + 1
    | lo, none => lo * k + 1
    | lo, some hi =>
      let pre := if lo = 0 then 1 else lo * k
      if lo = hi then pre else pre + 1 + (hi - lo) * (k + 1)
  | .group _ _ sub => sub.stateCount + 2
  | .concat subs => Node.stateCountSum subs
  | .alternation subs => Node.stateCountSum subs + 2
  | _ => 1

/-- The number of instructions a list of nodes compiles to. -/
def Node.stateCountSum : List Node → Nat
  | [] => 0
  | n :: ns => n.stateCount + Node.stateCountSum ns

end

/-- Compiles a parsed pattern with `groups` capture groups besides the whole match. A
program whose instructions alone pass the limit is refused at once. -/
def Program.ofNode (n : Node) : Except ParseError Program := do
  if (n.stateCount + 3) * 32 > sizeLimit then throw .programTooBig
  let build : Assembly Fragment := do
    let f ← Assembly.capture 0 none (Assembly.node n)
    let m ← Assembly.add .accept
    Assembly.patch f.exit m
    pure f
  let (f, b) ← build.run {}
  pure { insts := b.insts, start := f.entry, groups := b.groups, anchored := n.startAnchored }

end Regex

end ImportPath
