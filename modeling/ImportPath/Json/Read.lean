import ImportPath.Json.Value
import ImportPath.Json.Error
import ImportPath.Decimal.Scale

/-!
# Reading JSON text

The reader walks the UTF-8 bytes of a text with a cursor. Every failure carries the
position the reader stands at: *here* (the cursor) for failures found after consuming
the offending bytes, *ahead* (one byte past the cursor) for failures found by looking at
the next byte. Lines count from 1 and columns count bytes since the last line break.

Containers may nest 127 deep when their content is kept; skipping a value has no limit.

What this module delivers:

* `Json.Cursor` and the monad `Json.Reader`, whose state survives failures so that a
  caller can still finish a container and then place a failure without position.
* Primitives: `skipBlank`, `parseIdent`, `parseStr`, `parseNumber`, `nextItem`,
  `nextKey`, `objectColon`, `endSeq`, `endMap`, `withPosition`, `foundWrong`.
* `Json.readValue`, one value of any kind (objects as documents, or buffered with
  repeated keys kept), `Json.skipValue`, and `Json.parse`, a whole text as a document.
-/

namespace ImportPath

namespace Json

/-- A position in a byte text, with the nesting still allowed. -/
structure Cursor where
  bytes : ByteArray
  pos : Nat := 0
  depth : Nat := 128

/-- Reading with a cursor; the cursor keeps its place when reading fails. -/
abbrev Reader := ExceptT ReadError (StateM Cursor)

/-- Line (from 1) and column (bytes since the last line break) of byte offset `i`. -/
def lineColumn (bytes : ByteArray) (i : Nat) : Nat × Nat :=
  (bytes.toList.take i).foldl
    (fun (lc : Nat × Nat) b => if b == 10 then (lc.1 + 1, 0) else (lc.1, lc.2 + 1)) (1, 0)

/-- The byte under the cursor. -/
def peek : Reader (Option UInt8) := do
  let c ← get
  pure c.bytes[c.pos]?

/-- The byte under the cursor, or zero at the end. -/
def peekOrZero : Reader UInt8 := do
  pure ((← peek).getD 0)

/-- Moves past one byte. -/
def eat : Reader Unit := modify fun c => { c with pos := c.pos + 1 }

/-- The byte under the cursor, moving past it. -/
def next : Reader (Option UInt8) := do
  let b ← peek
  if b.isSome then eat
  pure b

/-- Fails at the cursor. -/
def failHere {α : Type} (code : ErrorCode) : Reader α := do
  let c ← get
  throw ⟨code, some (lineColumn c.bytes c.pos)⟩

/-- Fails one byte ahead of the cursor (at the end at most). -/
def failAhead {α : Type} (code : ErrorCode) : Reader α := do
  let c ← get
  throw ⟨code, some (lineColumn c.bytes (min c.bytes.size (c.pos + 1)))⟩

/-- Gives a failure without position the position of the cursor. -/
def placed (e : ReadError) : Reader ReadError := do
  match e.position with
  | some _ => pure e
  | none =>
    let c ← get
    pure { e with position := some (lineColumn c.bytes c.pos) }

/-- Runs `act`; a failure without position gets the cursor's position at failure time. -/
def withPosition {α : Type} (act : Reader α) : Reader α :=
  tryCatch act fun e => do throw (← placed e)

/-- Runs `act` and returns its outcome without failing. -/
def attempt {α : Type} (act : Reader α) : Reader (Except ReadError α) :=
  tryCatch (do pure (Except.ok (← act))) fun e => pure (Except.error e)

/-- Whether a byte is blank: space, line feed, tab or carriage return. -/
def isBlank (b : UInt8) : Bool := b == 32 || b == 10 || b == 9 || b == 13

/-- Skips blanks and returns the next byte without consuming it. -/
def skipBlank : Reader (Option UInt8) := do
  let c ← get
  let rest := (c.bytes.toList.drop c.pos).takeWhile isBlank
  set { c with pos := c.pos + rest.length }
  peek

/-- Whether a byte is an ASCII digit. -/
def isDigit (b : UInt8) : Bool := 48 ≤ b && b ≤ 57

/-- The value of an ASCII digit. -/
def digitValue (b : UInt8) : Nat := b.toNat - 48

/-- Reads the rest of a literal (`ull`, `rue`, `alse`). -/
def parseIdent : List UInt8 → Reader Unit
  | [] => pure ()
  | e :: rest => do
    match ← next with
    | none => failHere .eofWhileParsingValue
    | some b => if b == e then parseIdent rest else failHere .expectedSomeIdent

/-- The value of a hexadecimal digit. -/
def hexValue (b : UInt8) : Option Nat :=
  if 48 ≤ b && b ≤ 57 then some (b.toNat - 48)
  else if 65 ≤ b && b ≤ 70 then some (b.toNat - 55)
  else if 97 ≤ b && b ≤ 102 then some (b.toNat - 87)
  else none

/-- Reads four hexadecimal digits of a `\u` escape. -/
def hexEscape : Reader Nat := do
  let c ← get
  match c.bytes[c.pos]?, c.bytes[c.pos + 1]?, c.bytes[c.pos + 2]?, c.bytes[c.pos + 3]? with
  | some a, some b, some d, some e =>
    set { c with pos := c.pos + 4 }
    match hexValue a, hexValue b, hexValue d, hexValue e with
    | some a, some b, some d, some e => pure (((a * 16 + b) * 16 + d) * 16 + e)
    | _, _, _, _ => failHere .invalidEscape
  | _, _, _, _ =>
    set { c with pos := c.bytes.size }
    failHere .eofWhileParsingString

/-- The byte under the cursor; the end of the text inside a string is a failure. -/
def peekInString : Reader UInt8 := do
  match ← peek with
  | some b => pure b
  | none => failHere .eofWhileParsingString

/-- Reads a `\u` escape (after the `u`): a pair of surrogates makes one character; a lone
surrogate is refused. -/
def unicodeEscape : Reader Nat := do
  let n ← hexEscape
  if 0xDC00 ≤ n && n ≤ 0xDFFF then failHere .loneLeadingSurrogateInHexEscape
  else if n < 0xD800 || n > 0xDBFF then pure n
  else
    if (← peekInString) == 92 then eat else do eat; failHere .unexpectedEndOfHexEscape
    if (← peekInString) == 117 then eat else do eat; failHere .unexpectedEndOfHexEscape
    let n2 ← hexEscape
    if n2 < 0xDC00 || n2 > 0xDFFF then failHere .loneLeadingSurrogateInHexEscape
    else pure ((n - 0xD800) * 1024 + (n2 - 0xDC00) + 0x10000)

/-- Reads one escape (after the backslash) and returns the bytes it stands for. -/
def escape : Reader (List UInt8) := do
  match ← next with
  | none => failHere .eofWhileParsingString
  | some b =>
    if b == 34 then pure [34]
    else if b == 92 then pure [92]
    else if b == 47 then pure [47]
    else if b == 98 then pure [8]
    else if b == 102 then pure [12]
    else if b == 110 then pure [10]
    else if b == 114 then pure [13]
    else if b == 116 then pure [9]
    else if b == 117 then do
      let n ← unicodeEscape
      pure (String.utf8EncodeChar (Char.ofNat n))
    else failHere .invalidEscape

/-- Reads the rest of a string (after the opening quote), escapes decoded; control
characters are refused. -/
def parseStrLoop : Nat → Array UInt8 → Reader String
  | 0, _ => failHere .eofWhileParsingString
  | fuel + 1, acc => do
    match ← peek with
    | none => failHere .eofWhileParsingString
    | some b =>
      if b == 34 then do
        eat
        pure ((String.fromUTF8? ⟨acc⟩).getD "")
      else if b == 92 then do
        eat
        let bs ← escape
        parseStrLoop fuel (acc ++ bs.toArray)
      else if b < 32 then do
        eat
        failHere .controlCharacterWhileParsingString
      else do
        eat
        parseStrLoop fuel (acc.push b)

/-- Reads the rest of a string (after the opening quote). -/
def parseStr : Reader String := do
  let c ← get
  parseStrLoop (c.bytes.size - c.pos + 1) #[]

/-- The largest value of an unsigned 64-bit integer. -/
def maxUnsigned : Nat := Nat.pow 2 64 - 1

/-- The largest value of a signed 32-bit integer. -/
def maxExponent : Int := Int.pow 2 31 - 1

/-- Keeps an exponent within the signed 32-bit range. -/
def clampExponent (e : Int) : Int := max (-(Int.pow 2 31)) (min maxExponent e)

/-- The double for `± significand * 10 ^ exponent`; out of range is a failure. -/
def fromParts (positive : Bool) (significand : Nat) (exponent : Int) : Reader Float :=
  match Decimal.scaleToDouble positive significand exponent with
  | some f => pure f
  | none => failHere .numberOutOfRange

/-- Skips digits. -/
def skipDigits : Reader Unit := do
  let c ← get
  let ds := (c.bytes.toList.drop c.pos).takeWhile isDigit
  set { c with pos := c.pos + ds.length }

/-- Reads the digits of an exponent (after `e` and its sign); past the 32-bit range the
value is zero for a negative exponent or a zero significand, and out of range otherwise. -/
def exponentDigits (positive : Bool) (significand : Nat) (startExp : Int)
    (positiveExp : Bool) : Nat → Int → Reader Float
  | 0, _ => failHere .numberOutOfRange
  | fuel + 1, e => do
    let b ← peekOrZero
    if isDigit b then do
      eat
      let d := digitValue b
      if e > maxExponent / 10 || (e == maxExponent / 10 && (d : Int) > maxExponent % 10) then
        if significand != 0 && positiveExp then failHere .numberOutOfRange
        else do
          skipDigits
          pure (if positive then 0.0 else -0.0)
      else exponentDigits positive significand startExp positiveExp fuel (e * 10 + d)
    else
      let final := if positiveExp then clampExponent (startExp + e) else clampExponent (startExp - e)
      fromParts positive significand final

/-- Reads an exponent part (at `e` or `E`). -/
def parseExponent (positive : Bool) (significand : Nat) (startExp : Int) : Reader Float := do
  eat
  let b ← peekOrZero
  let positiveExp ← if b == 43 then do eat; pure true
    else if b == 45 then do eat; pure false
    else pure true
  match ← next with
  | none => failHere .eofWhileParsingValue
  | some d =>
    if isDigit d then do
      let c ← get
      exponentDigits positive significand startExp positiveExp (c.bytes.size - c.pos + 1)
        (digitValue d)
    else failHere .invalidNumber

/-- Whether `s * 10 + d` passes the largest unsigned 64-bit integer. -/
def overflows (s d : Nat) : Bool :=
  s ≥ maxUnsigned / 10 && (s > maxUnsigned / 10 || d > maxUnsigned % 10)

/-- After a significand too long to keep: further digits are dropped. -/
def decimalOverflow (positive : Bool) (significand : Nat) (exponent : Int) : Reader Float := do
  skipDigits
  let b ← peekOrZero
  if b == 101 || b == 69 then parseExponent positive significand exponent
  else fromParts positive significand exponent

/-- Reads the digits of a fraction. -/
def fractionDigits (positive : Bool) (before : Int) : Nat → Nat → Int → Reader Float
  | 0, _, _ => failHere .invalidNumber
  | fuel + 1, s, after => do
    let b ← peekOrZero
    if isDigit b then
      let d := digitValue b
      if overflows s d then decimalOverflow positive s (before + after)
      else do
        eat
        fractionDigits positive before fuel (s * 10 + d) (after - 1)
    else if after == 0 then do
      match ← peek with
      | some _ => failAhead .invalidNumber
      | none => failAhead .eofWhileParsingValue
    else if b == 101 || b == 69 then parseExponent positive s (before + after)
    else fromParts positive s (before + after)

/-- Reads a fraction (at the point). -/
def parseDecimal (positive : Bool) (significand : Nat) (before : Int) : Reader Float := do
  eat
  let c ← get
  fractionDigits positive before (c.bytes.size - c.pos + 1) significand 0

/-- Reads the rest of an integer too long for 64 bits: later digits only raise the
exponent. -/
def longIntegerDigits (positive : Bool) (significand : Nat) : Nat → Int → Reader Float
  | 0, _ => failHere .invalidNumber
  | fuel + 1, e => do
    let b ← peekOrZero
    if isDigit b then do
      eat
      longIntegerDigits positive significand fuel (e + 1)
    else if b == 46 then parseDecimal positive significand e
    else if b == 101 || b == 69 then parseExponent positive significand e
    else fromParts positive significand e

/-- The number after its integer digits: a fraction or exponent makes a double; otherwise
the integer is unsigned, negative, or a double when it does not fit (and for `-0`). -/
def afterInteger (positive : Bool) (significand : Nat) : Reader Number := do
  let b ← peekOrZero
  if b == 46 then pure (.float (← parseDecimal positive significand 0))
  else if b == 101 || b == 69 then pure (.float (← parseExponent positive significand 0))
  else if positive then pure (.nat significand)
  else if 1 ≤ significand && significand ≤ Nat.pow 2 63 then pure (.neg (-(significand : Int)))
  else pure (.float (-(significand.toUInt64.toFloat)))

/-- Reads the digits of an integer. -/
def integerDigits (positive : Bool) : Nat → Nat → Reader Number
  | 0, _ => failHere .invalidNumber
  | fuel + 1, s => do
    let b ← peekOrZero
    if isDigit b then
      let d := digitValue b
      if overflows s d then do
        let c ← get
        pure (.float (← longIntegerDigits positive s (c.bytes.size - c.pos + 1) 0))
      else do
        eat
        integerDigits positive fuel (s * 10 + d)
    else afterInteger positive s

/-- Reads a number (after its minus sign, if any). -/
def parseNumber (positive : Bool) : Reader Number := do
  match ← next with
  | none => failHere .eofWhileParsingValue
  | some b =>
    if b == 48 then
      if isDigit (← peekOrZero) then failAhead .invalidNumber else afterInteger positive 0
    else if isDigit b then do
      let c ← get
      integerDigits positive (c.bytes.size - c.pos + 1) (digitValue b)
    else failHere .invalidNumber

/-- Whether a sequence has another item; after the first, items are separated by commas
and a comma before the closing bracket is refused. -/
def nextItem (first : Bool) : Reader Bool := do
  match ← skipBlank with
  | none => failAhead .eofWhileParsingList
  | some b =>
    if b == 93 then pure false
    else if first then pure true
    else if b == 44 then do
      eat
      match ← skipBlank with
      | some 93 => failAhead .trailingComma
      | some _ => pure true
      | none => failAhead .eofWhileParsingValue
    else failAhead .expectedListCommaOrEnd

/-- Ends a sequence at its closing bracket. -/
def endSeq : Reader Unit := do
  match ← skipBlank with
  | some 93 => eat
  | some 44 => do
    eat
    match ← skipBlank with
    | some 93 => failAhead .trailingComma
    | _ => failAhead .trailingCharacters
  | some _ => failAhead .trailingCharacters
  | none => failAhead .eofWhileParsingList

/-- The next key of a map, or none at its closing brace; after the first, entries are
separated by commas and keys must be strings. -/
def nextKey (first : Bool) : Reader (Option String) := do
  let b ← match ← skipBlank with
    | some 125 => pure none
    | some 44 =>
      if first then pure (some (some (44 : UInt8)))
      else do
        eat
        pure (some (← skipBlank))
    | some b =>
      if first then pure (some (some b)) else failAhead .expectedObjectCommaOrEnd
    | none => failAhead .eofWhileParsingObject
  match b with
  | none => pure none
  | some (some 34) => do
    eat
    pure (some (← parseStr))
  | some (some 125) => failAhead .trailingComma
  | some (some _) => failAhead .keyMustBeAString
  | some none => failAhead .eofWhileParsingValue

/-- Reads the colon between a key and its value. -/
def objectColon : Reader Unit := do
  match ← skipBlank with
  | some 58 => eat
  | some _ => failAhead .expectedColon
  | none => failAhead .eofWhileParsingObject

/-- Ends a map at its closing brace. -/
def endMap : Reader Unit := do
  match ← skipBlank with
  | some 125 => eat
  | some 44 => failAhead .trailingComma
  | some _ => failAhead .trailingCharacters
  | none => failAhead .eofWhileParsingObject

/-- Enters a container: one less nesting allowed, refused when none is left. -/
def enter : Reader Unit := do
  let c ← get
  if c.depth ≤ 1 then failAhead .recursionLimitExceeded
  else set { c with depth := c.depth - 1, pos := c.pos + 1 }

/-- Leaves a container. -/
def leave : Reader Unit := modify fun c => { c with depth := c.depth + 1 }

/-- Finishes a container whose content was read with outcome `r`: the closing is read in
any case, and the first failure wins. -/
def closeWith {α : Type} (r : Except ReadError α) (close : Reader Unit) : Reader α := do
  let closed ← attempt close
  match r, closed with
  | .ok v, .ok _ => pure v
  | .error e, _ => throw e
  | .ok _, .error e => throw e

/-- Reports a value found where another kind was expected, reading the scalar that stands
there (its own reading failures win); containers are not entered. -/
def foundWrong {α : Type} (expected : String) : Reader α := do
  let e ← (match (← peek).getD 0 with
    | 110 => do eat; parseIdent [117, 108, 108]; pure (invalidType .null expected)
    | 116 => do eat; parseIdent [114, 117, 101]; pure (invalidType (.bool true) expected)
    | 102 => do eat; parseIdent [97, 108, 115, 101]; pure (invalidType (.bool false) expected)
    | 45 => do eat; pure (invalidType (← parseNumber false).unexpected expected)
    | 34 => do eat; pure (invalidType (.str (← parseStr)) expected)
    | 91 => pure (invalidType .seq expected)
    | 123 => pure (invalidType .map expected)
    | b => if isDigit b then do pure (invalidType (← parseNumber true).unexpected expected)
      else failAhead .expectedSomeValue : Reader ReadError)
  throw (← placed e)

mutual

/-- Reads one value of any kind. Objects are documents (a repeated key keeps its first
position and takes the later value) or, when `keepRepeated`, buffered with every entry. -/
def readValue (keepRepeated : Bool) : Nat → Reader Json
  | 0 => failAhead .recursionLimitExceeded
  | fuel + 1 => withPosition do
    match ← skipBlank with
    | none => failAhead .eofWhileParsingValue
    | some b =>
      if b == 110 then do eat; parseIdent [117, 108, 108]; pure .null
      else if b == 116 then do eat; parseIdent [114, 117, 101]; pure (.bool true)
      else if b == 102 then do eat; parseIdent [97, 108, 115, 101]; pure (.bool false)
      else if b == 45 then do eat; pure (.number (← parseNumber false))
      else if isDigit b then do pure (.number (← parseNumber true))
      else if b == 34 then do eat; pure (.string (← parseStr))
      else if b == 91 then do
        enter
        let r ← attempt (readItems keepRepeated fuel true [])
        leave
        pure (.array (← closeWith r endSeq))
      else if b == 123 then do
        enter
        let r ← attempt (readFields keepRepeated fuel true [])
        leave
        pure (.object (← closeWith r endMap))
      else failAhead .expectedSomeValue

/-- Reads the items of a sequence, in order. -/
def readItems (keepRepeated : Bool) : Nat → Bool → List Json → Reader (List Json)
  | 0, _, _ => failAhead .recursionLimitExceeded
  | fuel + 1, first, acc => do
    if ← nextItem first then
      let v ← readValue keepRepeated fuel
      readItems keepRepeated fuel false (acc ++ [v])
    else pure acc

/-- Reads the entries of a map, in order. -/
def readFields (keepRepeated : Bool) : Nat → Bool → Fields → Reader Fields
  | 0, _, _ => failAhead .recursionLimitExceeded
  | fuel + 1, first, acc => do
    match ← nextKey first with
    | none => pure acc
    | some k =>
      objectColon
      let v ← readValue keepRepeated fuel
      readFields keepRepeated fuel false (if keepRepeated then acc ++ [(k, v)] else acc.insert k v)

end

/-- Skips the rest of a string (after the opening quote) without decoding it; escapes are
checked but surrogates are not paired. -/
def skipStrLoop : Nat → Reader Unit
  | 0 => failHere .eofWhileParsingString
  | fuel + 1 => do
    let c ← get
    let rest := (c.bytes.toList.drop c.pos).takeWhile fun b => b != 34 && b != 92 && b ≥ 32
    set { c with pos := c.pos + rest.length }
    match ← peek with
    | none => failHere .eofWhileParsingString
    | some 34 => eat
    | some 92 => do
      eat
      match ← next with
      | none => failHere .eofWhileParsingString
      | some b =>
        if b == 117 then do let _ ← hexEscape
        else if [34, 92, 47, 98, 102, 110, 114, 116].contains b then pure ()
        else failHere .invalidEscape
      skipStrLoop fuel
    | some _ => failHere .controlCharacterWhileParsingString

/-- Skips an exponent (at `e` or `E`). -/
def skipExponent : Reader Unit := do
  eat
  let b ← peekOrZero
  if b == 43 || b == 45 then eat
  let d ← peekOrZero
  if isDigit d then do eat; skipDigits
  else do
    if (← peek).isSome then eat
    failHere .invalidNumber

/-- Skips a number (after its minus sign, if any) without computing it. -/
def skipNumber : Reader Unit := do
  let b ← peekOrZero
  if (← peek).isSome then eat
  if b == 48 then
    if isDigit (← peekOrZero) then failAhead .invalidNumber
  else if isDigit b then skipDigits
  else failHere .invalidNumber
  let b ← peekOrZero
  if b == 46 then do
    eat
    if isDigit (← peekOrZero) then do
      skipDigits
      let e ← peekOrZero
      if e == 101 || e == 69 then skipExponent
    else failAhead .invalidNumber
  else if b == 101 || b == 69 then skipExponent

/-- Skips one scalar or opens a container; returns the bracket opened, if any. -/
def skipToken : Reader (Option UInt8) := do
  match ← skipBlank with
  | none => failAhead .eofWhileParsingValue
  | some b =>
    if b == 110 then do eat; parseIdent [117, 108, 108]; pure none
    else if b == 116 then do eat; parseIdent [114, 117, 101]; pure none
    else if b == 102 then do eat; parseIdent [97, 108, 115, 101]; pure none
    else if b == 45 then do eat; skipNumber; pure none
    else if isDigit b then do skipNumber; pure none
    else if b == 34 then do
      eat
      let c ← get
      skipStrLoop (c.bytes.size - c.pos + 1)
      pure none
    else if b == 91 || b == 123 then do eat; pure (some b)
    else failAhead .expectedSomeValue

/-- After a value inside the open containers `stack` (innermost first): closes finished
containers and moves to the next entry. Returns the remaining stack, or none when the
outermost value is complete. -/
def skipClose : Nat → Bool → List UInt8 → Reader (Option (List UInt8))
  | 0, _, _ => failAhead .eofWhileParsingValue
  | _ + 1, _, [] => pure none
  | fuel + 1, acceptComma, frame :: outer => do
    match ← skipBlank with
    | some 44 =>
      if acceptComma then do eat; pure (some (frame :: outer))
      else pure (some (frame :: outer))
    | some 93 =>
      if frame == 91 then do eat; skipClose fuel true outer
      else if acceptComma then failAhead .expectedObjectCommaOrEnd
      else pure (some (frame :: outer))
    | some 125 =>
      if frame == 123 then do eat; skipClose fuel true outer
      else if acceptComma then failAhead .expectedListCommaOrEnd
      else pure (some (frame :: outer))
    | some _ =>
      if acceptComma then
        failAhead (if frame == 91 then .expectedListCommaOrEnd else .expectedObjectCommaOrEnd)
      else pure (some (frame :: outer))
    | none => failAhead (if frame == 91 then .eofWhileParsingList else .eofWhileParsingObject)

/-- Reads the key and colon that start an entry of an object being skipped. -/
def skipKey : Reader Unit := do
  match ← skipBlank with
  | some 34 => do
    eat
    let c ← get
    skipStrLoop (c.bytes.size - c.pos + 1)
  | some _ => failAhead .keyMustBeAString
  | none => failAhead .eofWhileParsingObject
  match ← skipBlank with
  | some 58 => eat
  | some _ => failAhead .expectedColon
  | none => failAhead .eofWhileParsingObject

/-- Skips values inside the open containers `stack`, with no nesting limit. -/
def skipLoop : Nat → List UInt8 → Reader Unit
  | 0, _ => failAhead .eofWhileParsingValue
  | fuel + 1, stack => do
    let stack ← match ← skipToken with
      | some frame => skipClose fuel false (frame :: stack)
      | none => skipClose fuel true stack
    match stack with
    | none => pure ()
    | some st => do
      match st with
      | 123 :: _ => skipKey
      | _ => pure ()
      skipLoop fuel st

/-- Skips one value of any kind without keeping it. -/
def skipValue : Reader Unit := do
  let c ← get
  skipLoop (2 * (c.bytes.size - c.pos) + 2) []

/-- The nesting budget for reading a text of `n` bytes. -/
def fuelFor (n : Nat) : Nat := 4 * n + 8

/-- Reads a whole text as one document value; anything but blanks after it is refused. -/
def parse (text : String) : Except ReadError Json :=
  let bytes := text.toUTF8
  let act : Reader Json := do
    let v ← readValue false (fuelFor bytes.size)
    match ← skipBlank with
    | some _ => failAhead .trailingCharacters
    | none => pure v
  (act.run.run { bytes }).1

end Json

end ImportPath
