import ImportPath.Json.Write

/-!
# Indented JSON text

The indented form of a value: each item of a non-empty array and each field of a
non-empty object stands on a line of its own, two spaces deeper than its container,
and a field's key is followed by `: `. Empty arrays and objects stay `[]` and `{}`;
strings and numbers are written as in the compact form.

## What this module delivers

- `Json.pretty`, the indented text of a value.
-/

namespace ImportPath

namespace Json

/-- The blanks in front of a line at depth `depth`. -/
def indent (depth : Nat) : String := String.ofList (List.replicate (2 * depth) ' ')

mutual

/-- The indented text of a value whose first line is already placed at `depth`. -/
def prettyAt (depth : Nat) : Json → String
  | array [] => "[]"
  | object [] => "\x7b\x7d"
  | array items =>
    "[\n" ++ ",\n".intercalate (prettyItems (depth + 1) items) ++ "\n" ++ indent depth ++ "]"
  | object fields =>
    "\x7b\n" ++ ",\n".intercalate (prettyFields (depth + 1) fields) ++ "\n" ++ indent depth ++
      "\x7d"
  | v => compact v

/-- The lines of the items of an array at `depth`. -/
def prettyItems (depth : Nat) : List Json → List String
  | [] => []
  | x :: xs => (indent depth ++ prettyAt depth x) :: prettyItems depth xs

/-- The lines `"key": value` of the fields of an object at `depth`. -/
def prettyFields (depth : Nat) : List (String × Json) → List String
  | [] => []
  | (k, v) :: rest => (indent depth ++ quote k ++ ": " ++ prettyAt depth v) :: prettyFields depth rest

end

/-- The indented text of a value. -/
def pretty (v : Json) : String := prettyAt 0 v

end Json

end ImportPath
