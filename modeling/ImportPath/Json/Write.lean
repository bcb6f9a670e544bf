import ImportPath.Json.Value
import ImportPath.Decimal.Shortest

/-!
# Compact JSON text

Values are written without blanks. In strings only the quote, the backslash and control
characters are escaped: `\b`, `\t`, `\n`, `\f`, `\r` by name, other control characters
as `\u00xx` with lower-case digits; all other characters are written as they are. A
double is written as its shortest decimal, and a double that is not finite as `null`.

What this module delivers: `Json.quote`, `Json.Number.text` and `Json.compact`.
-/

namespace ImportPath

namespace Json

/-- A hexadecimal digit in lower case. -/
def hexDigit (n : Nat) : Char :=
  if n < 10 then Char.ofNat (48 + n) else Char.ofNat (87 + n)

/-- The escaped form of one character inside a string. -/
def escapeChar (c : Char) : List Char :=
  if c == '"' then ['\\', '"']
  else if c == '\\' then ['\\', '\\']
  else if c.toNat == 8 then ['\\', 'b']
  else if c == '\t' then ['\\', 't']
  else if c == '\n' then ['\\', 'n']
  else if c.toNat == 12 then ['\\', 'f']
  else if c == '\r' then ['\\', 'r']
  else if c.toNat < 0x20 then ['\\', 'u', '0', '0', hexDigit (c.toNat / 16), hexDigit (c.toNat % 16)]
  else [c]

/-- A string in double quotes with its special characters escaped. -/
def quote (s : String) : String :=
  String.ofList ('"' :: (s.toList.flatMap escapeChar ++ ['"']))

/-- The text of a number: integers in decimal, finite doubles as their shortest decimal,
other doubles as `null`. -/
def Number.text : Number → String
  | .nat n => toString n
  | .neg n => toString n
  | .float f => if f.isNaN || f.isInf then "null" else Decimal.floatText f

mutual

/-- The compact text of a value. -/
def compact : Json → String
  | null => "null"
  | bool b => if b then "true" else "false"
  | number n => n.text
  | string s => quote s
  | array items => "[" ++ ",".intercalate (compactItems items) ++ "]"
  | object fields => "\x7b" ++ ",".intercalate (compactFields fields) ++ "\x7d"

/-- The compact texts of the items of a list. -/
def compactItems : List Json → List String
  | [] => []
  | x :: xs => compact x :: compactItems xs

/-- The compact texts `"key":value` of the fields of an object. -/
def compactFields : List (String × Json) → List String
  | [] => []
  | (k, v) :: rest => (quote k ++ ":" ++ compact v) :: compactFields rest

end

end Json

end ImportPath
