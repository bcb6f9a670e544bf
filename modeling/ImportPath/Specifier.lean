/-!
# Specifiers and extensions

An import specifier is the text written in an import. It is *relative* when it starts
with `./` or `../`, or when it is an absolute path (a Unix path, a drive path such as
`C:\x` or `C:/x`, or a network path `\\server`). Every other specifier is *bare*: a
package name, scoped or not.

What this module delivers:

* `Specifier.isRelative`, `Specifier.isAbsolutePath` and `Specifier.toLocal`, which
  marks a relative path as local by a leading `./`.
* `Specifier.extension`, the extension of the last segment (dot included), and
  `ExtensionRewrite` with `ExtensionRewrite.applyFirst`, which rewrites the extension
  of the last segment by the first rule that fits.
-/

namespace ImportPath

namespace Specifier

/-- Whether `part` occurs somewhere in `cs`. -/
def hasInfix (part : List Char) : List Char → Bool
  | [] => part.isEmpty
  | c :: cs => part.isPrefixOf (c :: cs) || hasInfix part cs

/-- Whether the text starts with `./` or `../`. -/
def hasLocalPrefix (s : String) : Bool :=
  s.startsWith "./" || s.startsWith "../"

/-- An absolute path: it starts with `/`, with a drive letter, a colon and a separator,
or with two backslashes. -/
def isAbsolutePath (s : String) : Bool :=
  s.startsWith "/" ||
  (match s.toList with
    | d :: ':' :: sep :: _ => (d.isAlpha && (sep == '\\' || sep == '/'))
    | _ => false) ||
  s.startsWith "\\\\"

/-- A relative specifier: a local path (`./`, `../`) or an absolute one. Bare package
names, scoped or not, are never relative. -/
def isRelative (s : String) : Bool := hasLocalPrefix s || isAbsolutePath s

/-- Marks a path as local: the empty path becomes `./`, a path starting with `./` or
`../` is kept, and any other path gets `./` in front. -/
def toLocal (s : String) : String :=
  if s.isEmpty then "./" else if hasLocalPrefix s then s else "./" ++ s

/-- The last segment of a text split at `/` (the whole text when it has none). -/
def lastSegment (cs : List Char) : List Char :=
  (cs.reverse.takeWhile (· != '/')).reverse

/-- The extension of the last segment, dot included: trailing `/` are ignored, and a
segment without a dot, with only a leading dot, or equal to `..` has none. -/
def extension (s : String) : String :=
  let trimmed := (s.toList.reverse.dropWhile (· == '/')).reverse
  let name := lastSegment trimmed
  if name == ['.', '.'] then ""
  else
    let afterLastDot := (name.reverse.takeWhile (· != '.')).reverse
    if afterLastDot.length + 1 ≥ name.length then ""
    else String.ofList ('.' :: afterLastDot)

end Specifier

/-- A rewrite rule for extensions: a trailing `source` is replaced by `target`; an empty
`target` strips the extension. -/
structure ExtensionRewrite where
  source : String
  target : String
  deriving DecidableEq, Repr, Inhabited

namespace ExtensionRewrite

/-- The rule that strips the extension `ext`. -/
def strip (ext : String) : ExtensionRewrite := ⟨ext, ""⟩

/-- Whether the rule fits a file name: its source is not empty, is shorter than the name
(in bytes), and ends it. -/
def fits (r : ExtensionRewrite) (name : String) : Bool :=
  !r.source.isEmpty && r.source.utf8ByteSize < name.utf8ByteSize &&
    r.source.toList.isSuffixOf name.toList

/-- Rewrites the extension of the last segment of `path` by the first rule that fits
that segment; with no such rule the path is kept. -/
def applyFirst (rules : List ExtensionRewrite) (path : String) : String :=
  let name := String.ofList (Specifier.lastSegment path.toList)
  match rules.find? (·.fits name) with
  | some r => String.ofList (path.toList.take (path.length - r.source.length)) ++ r.target
  | none => path

end ExtensionRewrite

end ImportPath
