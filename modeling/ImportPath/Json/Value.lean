/-!
# JSON values

A JSON value as a configuration reader sees it. Numbers keep the kind they were read
as: a non-negative integer below `2^64`, a negative integer not below `-2^63`, or a
double for everything else (fractions, exponents, integers out of those ranges, and
`-0`). Objects keep their fields in order.

What this module delivers:

* `Json.Number` and `Json`, the value types.
* `Json.Fields.insert`, which adds a field to an ordered field list the way a document
  object does: a repeated key keeps its first position and takes the later value.
* `Json.mapStrings`, which rewrites every string and key of a value, and `Json.depth`.
-/

namespace ImportPath

/-- A JSON number by the kind it was read as. -/
inductive Json.Number where
  /-- A non-negative integer below `2^64`. -/
  | nat (n : Nat)
  /-- A negative integer not below `-2^63`. -/
  | neg (n : Int)
  /-- Any other number, as a double. -/
  | float (f : Float)
  deriving Inhabited

/-- A JSON value; an object is its list of fields in order. -/
inductive Json where
  | null
  | bool (b : Bool)
  | number (n : Json.Number)
  | string (s : String)
  | array (items : List Json)
  | object (fields : List (String × Json))
  deriving Inhabited

namespace Json

/-- Ordered object fields. -/
abbrev Fields := List (String × Json)

/-- Adds a field: a key already present keeps its position and takes the new value;
a new key goes to the end. -/
def Fields.insert (fs : Fields) (k : String) (v : Json) : Fields :=
  if fs.any (·.1 == k) then fs.map (fun f => if f.1 == k then (k, v) else f)
  else fs ++ [(k, v)]

/-- The value of the first field named `k`. -/
def Fields.get? (fs : Fields) (k : String) : Option Json :=
  (fs.find? (·.1 == k)).map (·.2)

/-- The value of the field `k` of an object. -/
def field? : Json → String → Option Json
  | object fs, k => Fields.get? fs k
  | _, _ => none

mutual

/-- Rewrites every string and every key of a value with `f`. -/
def mapStrings (f : String → String) : Json → Json
  | null => null
  | bool b => bool b
  | number n => number n
  | string s => string (f s)
  | array items => array (mapStringsItems f items)
  | object fields => object (mapStringsFields f fields)

/-- `mapStrings` on each item of a list. -/
def mapStringsItems (f : String → String) : List Json → List Json
  | [] => []
  | x :: xs => mapStrings f x :: mapStringsItems f xs

/-- `mapStrings` on each field of an object, key included. -/
def mapStringsFields (f : String → String) : List (String × Json) → List (String × Json)
  | [] => []
  | (k, v) :: rest => (f k, mapStrings f v) :: mapStringsFields f rest

end

mutual

/-- The nesting depth of a value: scalars have depth 0. -/
def depth : Json → Nat
  | array items => depthItems items + 1
  | object fields => depthFields fields + 1
  | _ => 0

/-- The deepest item of a list. -/
def depthItems : List Json → Nat
  | [] => 0
  | x :: xs => max (depth x) (depthItems xs)

/-- The deepest value of an object's fields. -/
def depthFields : List (String × Json) → Nat
  | [] => 0
  | (_, v) :: rest => max (depth v) (depthFields rest)

end

end Json

end ImportPath
