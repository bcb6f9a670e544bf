import ImportPath.Json.Value
import ImportPath.Decimal.Shortest
import ImportPath.Text.GraphemeExtend
import ImportPath.Text.Printable

/-!
# Errors of JSON reading and decoding

A failure to read a JSON text, or to decode a value into a typed document, has a cause
and, when the reader knows it, a position: the line (from 1) and the column (bytes since
the last line break). Decoding failures name what was found (`Unexpected`) and what was
expected.

What this module delivers:

* `Json.ErrorCode` with its text, `Json.ReadError` and `Json.ReadError.message`.
* `Json.Unexpected`, the description of a found value, and the messages for a wrong
  type, a wrong length, a missing or repeated field and an unknown variant.
* `Json.debugQuoted`, the quoted form of a text inside such messages.
-/

namespace ImportPath

namespace Json

/-- Why a JSON text could not be read or decoded. -/
inductive ErrorCode where
  | message (text : String)
  | eofWhileParsingList
  | eofWhileParsingObject
  | eofWhileParsingString
  | eofWhileParsingValue
  | expectedColon
  | expectedListCommaOrEnd
  | expectedObjectCommaOrEnd
  | expectedSomeIdent
  | expectedSomeValue
  | invalidEscape
  | invalidNumber
  | numberOutOfRange
  | controlCharacterWhileParsingString
  | keyMustBeAString
  | loneLeadingSurrogateInHexEscape
  | trailingComma
  | trailingCharacters
  | unexpectedEndOfHexEscape
  | recursionLimitExceeded
  deriving Inhabited

/-- The text of a cause. -/
def ErrorCode.text : ErrorCode → String
  | .message t => t
  | .eofWhileParsingList => "EOF while parsing a list"
  | .eofWhileParsingObject => "EOF while parsing an object"
  | .eofWhileParsingString => "EOF while parsing a string"
  | .eofWhileParsingValue => "EOF while parsing a value"
  | .expectedColon => "expected `:`"
  | .expectedListCommaOrEnd => "expected `,` or `]`"
  | .expectedObjectCommaOrEnd => "expected `,` or `\x7d`"
  | .expectedSomeIdent => "expected ident"
  | .expectedSomeValue => "expected value"
  | .invalidEscape => "invalid escape"
  | .invalidNumber => "invalid number"
  | .numberOutOfRange => "number out of range"
  | .controlCharacterWhileParsingString =>
      "control character (\\u0000-\\u001F) found while parsing a string"
  | .keyMustBeAString => "key must be a string"
  | .loneLeadingSurrogateInHexEscape => "lone leading surrogate in hex escape"
  | .trailingComma => "trailing comma"
  | .trailingCharacters => "trailing characters"
  | .unexpectedEndOfHexEscape => "unexpected end of hex escape"
  | .recursionLimitExceeded => "recursion limit exceeded"

/-- A reading or decoding failure: its cause and, when known, its line and column. -/
structure ReadError where
  code : ErrorCode
  position : Option (Nat × Nat) := none
  deriving Inhabited

/-- A failure with a cause given as text and no position yet. -/
def ReadError.custom (text : String) : ReadError := ⟨.message text, none⟩

/-- The text of a failure: the cause, followed by its position when known. -/
def ReadError.message (e : ReadError) : String :=
  match e.position with
  | none => e.code.text
  | some (line, col) =>
    e.code.text ++ " at line " ++ toString line ++ " column " ++ toString col

/-- Whether a character is shown as an escape inside a quoted text of a message: a
character that extends the one before it, or one that does not print on its own. -/
def escapedInQuote (c : Char) : Bool :=
  Text.isGraphemeExtend c || !Text.isPrintable c

/-- Lower-case hexadecimal digits of a number, without leading zeros. -/
def hexDigits (n : Nat) : String :=
  String.ofList (Nat.toDigits 16 n)

/-- A text in double quotes as messages show it: quote and backslash escaped,
`\t`, `\r`, `\n` and `\0` by name, other escaped characters as `\u{hex}`. -/
def debugQuoted (s : String) : String :=
  let body := s.toList.flatMap fun c =>
    if c == '"' then ['\\', '"']
    else if c == '\\' then ['\\', '\\']
    else if c == '\t' then ['\\', 't']
    else if c == '\r' then ['\\', 'r']
    else if c == '\n' then ['\\', 'n']
    else if c.toNat == 0 then ['\\', '0']
    else if escapedInQuote c then ("\\u\x7b" ++ hexDigits c.toNat ++ "\x7d").toList
    else [c]
  "\"" ++ String.ofList body ++ "\""

/-- What a decoder found where it expected something else. -/
inductive Unexpected where
  | null
  | bool (b : Bool)
  | unsigned (n : Nat)
  | signed (n : Int)
  | float (f : Float)
  | str (s : String)
  | seq
  | map
  deriving Inhabited

/-- The description of a found value inside a message. -/
def Unexpected.text : Unexpected → String
  | .null => "null"
  | .bool b => "boolean `" ++ (if b then "true" else "false") ++ "`"
  | .unsigned n => "integer `" ++ toString n ++ "`"
  | .signed n => "integer `" ++ toString n ++ "`"
  | .float f => "floating point `" ++ Decimal.floatText f ++ "`"
  | .str s => "string " ++ debugQuoted s
  | .seq => "sequence"
  | .map => "map"

/-- What a number is, as a found value. -/
def Number.unexpected : Number → Unexpected
  | .nat n => .unsigned n
  | .neg n => .signed n
  | .float f => .float f

/-- What a value is, as a found value. -/
def unexpected : Json → Unexpected
  | .null => .null
  | .bool b => .bool b
  | .number n => n.unexpected
  | .string s => .str s
  | .array _ => .seq
  | .object _ => .map

/-- A value of the wrong type. -/
def invalidType (u : Unexpected) (expected : String) : ReadError :=
  .custom ("invalid type: " ++ u.text ++ ", expected " ++ expected)

/-- A value of the right type that is not allowed. -/
def invalidValue (u : Unexpected) (expected : String) : ReadError :=
  .custom ("invalid value: " ++ u.text ++ ", expected " ++ expected)

/-- A sequence of the wrong length. -/
def invalidLength (n : Nat) (expected : String) : ReadError :=
  .custom ("invalid length " ++ toString n ++ ", expected " ++ expected)

/-- A required field that is absent. -/
def missingField (name : String) : ReadError :=
  .custom ("missing field `" ++ name ++ "`")

/-- A field given twice. -/
def duplicateField (name : String) : ReadError :=
  .custom ("duplicate field `" ++ name ++ "`")

/-- The list of allowed variants inside a message. -/
def oneOf : List String → String
  | [] => "there are no variants"
  | [a] => "`" ++ a ++ "`"
  | [a, b] => "`" ++ a ++ "` or `" ++ b ++ "`"
  | names => "one of " ++ ", ".intercalate (names.map fun n => "`" ++ n ++ "`")

/-- A variant name that is not one of `names`. -/
def unknownVariant (found : String) (names : List String) : ReadError :=
  .custom ("unknown variant `" ++ found ++ "`, expected " ++ oneOf names)

end Json

end ImportPath
