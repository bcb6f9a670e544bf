/-!
# Path texts and their components

A path is a text in which `/` separates names. A leading `/` is the root; the name `.`
stands for the current directory and `..` for the parent. Reading a path gives its
*components*: the root (if any), a leading `.` of a relative path (if any), then one
component per non-empty part other than `.`. Repeated and trailing separators, and `.`
parts after the first position, stand for nothing.

What this module delivers:

* `Path`, a path as written, and `Component`, what it is made of.
* `Path.components`, the component view, and `Path.join`, which appends a relative path
  (an absolute one replaces the base).
* `Path.parent`, the path with its last component removed (none for the root and the
  empty path), and `Path.fileName`, the last name.
* `Path.stripPrefix?` and `Path.startsWith`, prefix tests on components.

All operations keep the text: a path is never rebuilt from its components, so
`parent` of `a//b/./` is `a`, with the separators before `b` dropped only because they
trail the remaining part.
-/

namespace ImportPath

/-- A path as written: a text whose `/` characters separate names. -/
structure Path where
  text : String
  deriving DecidableEq, Repr, Inhabited

/-- One element of a path, read from left to right. -/
inductive Component where
  | root
  | current
  | parent
  | name (s : String)
  deriving DecidableEq, Repr, Inhabited

namespace Component

/-- The text a component stands for when written back: `/`, `.`, `..` or the name. -/
def text : Component → String
  | root => "/"
  | current => "."
  | parent => ".."
  | name s => s

/-- Names are the components that are neither the root nor a directory marker. -/
def isName : Component → Bool
  | name _ => true
  | _ => false

end Component

/-- The component a part between separators stands for: none for an empty part or `.`. -/
def partComponent : String → Option Component
  | "" => none
  | "." => none
  | ".." => some .parent
  | s => some (.name s)

/-- A part that stands for no component. -/
def isBlankPart (s : String) : Bool := (partComponent s).isNone

/-- Drops the parts at the end of a list that stand for no component. -/
def dropBlankTail (parts : List String) : List String :=
  (parts.reverse.dropWhile isBlankPart).reverse

namespace Path

instance : ToString Path := ⟨Path.text⟩

/-- The empty path. -/
def empty : Path := ⟨""⟩

/-- The root directory `/`. -/
def rootDir : Path := ⟨"/"⟩

/-- A path is absolute when it starts at the root. -/
def isAbsolute (p : Path) : Bool := p.text.startsWith "/"

/-- A relative path that begins with the part `.` keeps it as its first component. -/
def leadsWithCurrent (p : Path) : Bool :=
  !p.isAbsolute && (p.text == "." || p.text.startsWith "./")

/-- The text before the parts: `/` for an absolute path, `.` for one that leads with the
current directory, and nothing otherwise. -/
def headText (p : Path) : String :=
  if p.isAbsolute then "/" else if p.leadsWithCurrent then "." else ""

/-- The components that come from the head text. -/
def headComponents (p : Path) : List Component :=
  if p.isAbsolute then [.root] else if p.leadsWithCurrent then [.current] else []

/-- The text after the head text. -/
def body (p : Path) : String :=
  String.ofList (p.text.toList.drop p.headText.length)

/-- The parts of the body between separators; an empty body has no parts. -/
def parts (p : Path) : List String :=
  if p.body.isEmpty then [] else p.body.splitOn "/"

/-- The components of a path, from left to right. -/
def components (p : Path) : List Component :=
  p.headComponents ++ p.parts.filterMap partComponent

/-- The path written from a head text and the parts that follow it. -/
def ofParts (head : String) (parts : List String) : Path :=
  ⟨head ++ "/".intercalate parts⟩

/-- Appends `q` to `p`: an absolute `q` replaces `p`; otherwise a separator is put
between them unless `p` is empty or already ends with one. -/
def join (p q : Path) : Path :=
  if q.isAbsolute then q
  else if p.text.isEmpty || p.text.toList.getLast? == some '/' then ⟨p.text ++ q.text⟩
  else ⟨p.text ++ "/" ++ q.text⟩

/-- The last component together with the parts before it, once blank parts at the end
are dropped. -/
def lastPart? (p : Path) : Option (String × List String) :=
  match (dropBlankTail p.parts).reverse with
  | [] => none
  | last :: before => some (last, before.reverse)

/-- The path without its last component: none when the last component is the root or
when there is no component; a path made only of `.` has the empty path as parent. -/
def parent (p : Path) : Option Path :=
  match p.lastPart? with
  | some (_, before) => some (ofParts p.headText (dropBlankTail before))
  | none => if p.leadsWithCurrent then some empty else none

/-- The last component when it is a name. -/
def fileName (p : Path) : Option String :=
  match p.components.getLast? with
  | some (.name s) => some s
  | _ => none

/-- Removes from `parts` the parts that make up the first `n` components of the body,
together with the blank parts between them. -/
def dropComponentParts : Nat → List String → List String
  | 0, parts => parts
  | _ + 1, [] => []
  | n + 1, s :: rest => if isBlankPart s then dropComponentParts (n + 1) rest
      else dropComponentParts n rest

/-- Whether `pre` is a prefix of `xs`, comparing components. -/
def isComponentPrefix (pre xs : List Component) : Bool := pre.isPrefixOf xs

/-- The rest of `p` after the components of `base`, when they are a prefix of its
components. Blank parts at both ends of the rest are dropped; when `base` has no
component only the end is trimmed. -/
def stripPrefix? (p base : Path) : Option Path :=
  let pc := p.components
  let bc := base.components
  if !isComponentPrefix bc pc then none
  else if bc.isEmpty then some (ofParts p.headText (dropBlankTail p.parts))
  else
    let inBody := bc.length - p.headComponents.length
    let rest := dropComponentParts inBody p.parts
    some (ofParts "" (dropBlankTail (rest.dropWhile isBlankPart)))

/-- Whether the components of `base` are a prefix of those of `p`. -/
def startsWith (p base : Path) : Bool := isComponentPrefix base.components p.components

end Path

end ImportPath
