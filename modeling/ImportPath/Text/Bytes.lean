import ImportPath.Specifier
import ImportPath.Alias.Template
import ImportPath.Locate.Node

/-!
# Byte offsets and cuts

A text is stored as its UTF-8 bytes. The code finds characters by the byte offset they
start at, and cuts texts at byte offsets. A cut panics unless both offsets lie on character
boundaries of the text, the first not after the second; reading a byte, or taking a list
from an index, panics past the end; and a subtraction of sizes panics below zero.

This module states these operations with their failures (`none` where the code panics),
and writes the functions that cut texts as the code does, with byte offsets: the test for a
drive path, the extension of a name, the rewrite of an extension, the expansion of group
references in a template piece, the split of a bare specifier, and the way between two
directories.

## What this module delivers

- `charIndices`, the characters of a text with the byte offset each starts at, and
  `findByte?` and `rfindByte?`, the offsets of the first and the last character that passes
  a test.
- `byteSlice?`, `sliceFrom?` and `checkedSub`, the cuts and the subtraction that can fail.
- `Specifier.isAbsolutePathBytes?`, `Specifier.extensionBytes?`,
  `ExtensionRewrite.applyFirstBytes?`, `Template.expandRefsBytes?`, `Locate.splitBareBytes?`
  and `Path.relativeSlices?`: the functions as the code cuts, `none` where it would panic.
-/

namespace ImportPath

/-- The characters of a text with the byte offset each starts at, the first at `off`. -/
def charIndicesFrom : Nat → List Char → List (Nat × Char)
  | _, [] => []
  | off, c :: cs => (off, c) :: charIndicesFrom (off + c.utf8Size) cs

/-- The characters of a text with the byte offset each starts at. -/
def charIndices (s : String) : List (Nat × Char) := charIndicesFrom 0 s.toList

/-- The byte offset of the first character of `s` that passes `p`. -/
def findByte? (s : String) (p : Char → Bool) : Option Nat :=
  ((charIndices s).find? (p ·.2)).map (·.1)

/-- The byte offset of the last character of `s` that passes `p`. -/
def rfindByte? (s : String) (p : Char → Bool) : Option Nat :=
  ((charIndices s).reverse.find? (p ·.2)).map (·.1)

/-- The text of `s` between the byte offsets `a` and `b`: none, where the code panics, unless
both are character boundaries of `s` and `a` is not after `b`. -/
def byteSlice? (s : String) (a b : Nat) : Option String := do
  let pa ← s.pos? ⟨a⟩
  let pb ← s.pos? ⟨b⟩
  (s.slice? pa pb).map String.Slice.copy

/-- The entries of a list from index `a` on: none past its end. -/
def sliceFrom? {α : Type} (xs : List α) (a : Nat) : Option (List α) :=
  if a ≤ xs.length then some (xs.drop a) else none

/-- The difference of two sizes: none below zero. -/
def checkedSub (a b : Nat) : Option Nat :=
  if b ≤ a then some (a - b) else none

namespace Specifier

/-- Whether a byte is an ASCII letter. -/
def isAsciiAlphaByte (b : UInt8) : Bool :=
  (65 ≤ b.toNat && b.toNat ≤ 90) || (97 ≤ b.toNat && b.toNat ≤ 122)

/-- `isAbsolutePath` as the code reads a drive path: a letter, a colon and a separator in
the first three bytes, each read only when the one before it passed and the text has three
bytes. -/
def isAbsolutePathBytes? (spec : String) : Option Bool :=
  if spec.startsWith "/" then some true
  else
    let bytes := spec.toUTF8
    let drive : Option Bool :=
      if 3 ≤ bytes.size then
        bytes[0]?.bind fun b0 =>
          if !isAsciiAlphaByte b0 then some false
          else bytes[1]?.bind fun b1 =>
            if b1.toNat != 58 then some false
            else bytes[2]?.map fun b2 => b2.toNat == 92 || b2.toNat == 47
      else some false
    drive.map (· || spec.startsWith "\\\\")

/-- `extension` as the code cuts: the name is cut from the byte offset of its last dot. -/
def extensionBytes? (s : String) : Option String :=
  let trimmed := (s.toList.reverse.dropWhile (· == '/')).reverse
  let name := String.ofList (lastSegment trimmed)
  if name = ".." then some ""
  else
    match rfindByte? name (· == '.') with
    | none => some ""
    | some 0 => some ""
    | some idx => byteSlice? name idx name.utf8ByteSize

end Specifier

namespace ExtensionRewrite

/-- The byte offset the last segment of a path starts at: one byte after its last `/`, or
the start of the path. -/
def nameStart (path : String) : Nat :=
  match rfindByte? path (· == '/') with
  | some idx => idx + 1
  | none => 0

/-- `applyFirst` as the code cuts: the name is cut from `nameStart`, and the stem ends the
size of the rule's source before the end of the path. -/
def applyFirstBytes? (rules : List ExtensionRewrite) (path : String) : Option String := do
  let name ← byteSlice? path (nameStart path) path.utf8ByteSize
  match rules.find? (·.fits name) with
  | none => pure path
  | some r =>
    let stemEnd ← checkedSub path.utf8ByteSize r.source.utf8ByteSize
    let stem ← byteSlice? path 0 stemEnd
    pure (stem ++ r.target)

end ExtensionRewrite

namespace Template

/-- Dropping a prefix of the entries never makes the list longer. -/
theorem dropWhile_entries_length_le (p : Nat × Char → Bool) (l : List (Nat × Char)) :
    (l.dropWhile p).length ≤ l.length :=
  (List.dropWhile_suffix p).length_le

/-- `expandRefs` as the code walks the characters of a piece with their byte offsets: after a
backslash at offset `i`, the digits that follow are cut out of the piece from `i + 1` to the
byte after the last of them. -/
def expandRefsBytes? (groups : List (Option String)) (part : String) :
    List (Nat × Char) → Option (List Char)
  | [] => some []
  | (i, c) :: rest =>
    if c = '\\' then
      let start := i + 1
      let stop := match (rest.takeWhile (·.2.isDigit)).getLast? with
        | some (j, _) => j + 1
        | none => start
      if start < stop then do
        let digits ← byteSlice? part start stop
        let tail ← expandRefsBytes? groups part (rest.dropWhile (·.2.isDigit))
        pure (groupText groups digits.toList ++ tail)
      else ('\\' :: ·) <$> expandRefsBytes? groups part rest
    else (c :: ·) <$> expandRefsBytes? groups part rest
termination_by entries => entries.length
decreasing_by
  all_goals simp_wf
  all_goals first
    | omega
    | exact Nat.lt_succ_of_le (dropWhile_entries_length_le _ _)
    | exact dropWhile_entries_length_le _ _

end Template

namespace Locate

/-- `splitBare` as the code cuts: at the byte offset of the second `/` of a scoped name, or
of the first `/` of any other name; the subpath starts one byte later. -/
def splitBareBytes? (s : String) : Option (String × Option String) :=
  let cut := if s.startsWith "@" then
      match (charIndices s).filter (·.2 == '/') with
      | _ :: (i, _) :: _ => some i
      | _ => none
    else findByte? s (· == '/')
  match cut with
  | some i => do
    let name ← byteSlice? s 0 i
    let sub ← byteSlice? s (i + 1) s.utf8ByteSize
    pure (name, some sub)
  | none => some (s, none)

end Locate

namespace Path

/-- `relative` as the code walks the components: those of both paths after the common prefix
are taken as slices of the component lists. -/
def relativeSlices? (src dst : Path) : Option Path :=
  let fc := src.components
  let tc := dst.components
  let common := commonPrefixLength fc tc
  if common == 0 && (anchors fc.head? || anchors tc.head?) then some dst
  else do
    let up ← sliceFrom? fc common
    let down ← sliceFrom? tc common
    pure ⟨"/".intercalate (List.replicate up.length ".." ++ down.map Component.text)⟩

end Path

end ImportPath
