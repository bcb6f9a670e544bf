import ImportPath.Config.FromValue
import ImportPath.Json.Read

/-!
# Reading a configuration document from text

The text is read once, left to right, and each part is checked against the shape of a
document as soon as it is read: the first fault met wins, whether it is a fault of the
JSON itself or a value of the wrong kind. Each failure carries its line and column.
A failure found after reading a whole value (a repeated key, a missing field, an unknown
level) is placed where the reader stands when it is found, once the enclosing object or
array has been closed if it could be.

Unknown keys are skipped. The entries of an override beside its `scope` are buffered
with every entry kept and read as a document once the override has been read, so a
fault inside them is placed after the override's closing brace.

## What this module delivers

- `RawConfig.ofText`, the document a text stands for, or the first failure with its
  position.
-/

namespace ImportPath

namespace RawConfig

open Json

/-- Enough steps to read the rest of the text. -/
def restFuel : Reader Nat := do
  let c ← get
  pure (fuelFor (c.bytes.size - c.pos))

/-- Turns a decoding outcome into reading. -/
def lift {α : Type} : Decoding α → Reader α
  | .ok a => pure a
  | .error e => throw e

/-- A string; anything else is reported as found where a string was expected. -/
def readString : Reader String := withPosition do
  match ← skipBlank with
  | none => failAhead .eofWhileParsingValue
  | some 34 => do eat; parseStr
  | some _ => foundWrong "a string"

/-- A boolean. -/
def readBool : Reader Bool := withPosition do
  match ← skipBlank with
  | none => failAhead .eofWhileParsingValue
  | some 116 => do eat; parseIdent [114, 117, 101]; pure true
  | some 102 => do eat; parseIdent [97, 108, 115, 101]; pure false
  | some _ => foundWrong "a boolean"

/-- An optional value: `null` leaves it unset. -/
def readOption {α : Type} (r : Reader α) : Reader (Option α) := do
  match ← skipBlank with
  | some 110 => do eat; parseIdent [117, 108, 108]; pure none
  | _ => some <$> r

/-- The items of an array, each read by `elem`. -/
def seqItems {α : Type} (elem : Reader α) : Nat → Bool → List α → Reader (List α)
  | 0, _, _ => failAhead .recursionLimitExceeded
  | fuel + 1, first, acc => do
    if ← nextItem first then
      let v ← elem
      seqItems elem fuel false (acc ++ [v])
    else pure acc

/-- An array whose items are read by `elem`. -/
def readSeq {α : Type} (elem : Reader α) : Reader (List α) := withPosition do
  match ← skipBlank with
  | none => failAhead .eofWhileParsingValue
  | some 91 => do
    enter
    let r ← attempt (do seqItems elem (← restFuel) true [])
    leave
    closeWith r endSeq
  | some _ => foundWrong "a sequence"

/-- The entries of a table of values. -/
def tableEntries : Nat → Bool → Fields → Reader Fields
  | 0, _, _ => failAhead .recursionLimitExceeded
  | fuel + 1, first, acc => do
    match ← nextKey first with
    | none => pure acc
    | some k =>
      objectColon
      let v ← readValue false (← restFuel)
      tableEntries fuel false (acc.insert k v)

/-- A table of values by key; a repeated key keeps its first position and takes the
later value. -/
def readTable : Reader Fields := withPosition do
  match ← skipBlank with
  | none => failAhead .eofWhileParsingValue
  | some 123 => do
    enter
    let r ← attempt (do tableEntries (← restFuel) true [])
    leave
    closeWith r endMap
  | some _ => foundWrong "a map"

/-- The name of a level, as a string. -/
def readVariant : Reader LogLevel := withPosition do
  match ← skipBlank with
  | none => failAhead .eofWhileParsingValue
  | some 34 => do
    eat
    let s ← parseStr
    match LogLevel.ofName? s with
    | some l => pure l
    | none => throw (unknownVariant s LogLevel.names)
  | some _ => foundWrong "variant identifier"

/-- `null`, the only value of the unit type. -/
def readUnit : Reader Unit := withPosition do
  match ← skipBlank with
  | none => failAhead .eofWhileParsingValue
  | some 110 => do eat; parseIdent [117, 108, 108]
  | some _ => foundWrong "unit"

/-- A level: its name as a string, or an object with its name as the single key and
`null` as value. -/
def readLogLevel : Reader LogLevel := do
  match ← skipBlank with
  | some 123 => do
    enter
    let r ← attempt (do
      let l ← readVariant
      objectColon
      readUnit
      pure l)
    leave
    let l ← lift r
    match ← skipBlank with
    | some 125 => do eat; pure l
    | some _ => failHere .expectedSomeValue
    | none => failHere .eofWhileParsingObject
  | some 34 => readVariant
  | some _ => failAhead .expectedSomeValue
  | none => failAhead .eofWhileParsingValue

/-- The entries of a third-party object. -/
def thirdPartyEntries : Nat → Bool → Option String → Option Fields → Reader RawThirdParty
  | 0, _, _, _ => failAhead .recursionLimitExceeded
  | fuel + 1, first, module, aliases => do
    match ← nextKey first with
    | none =>
      match module with
      | some m => pure ⟨m, aliases.getD []⟩
      | none => throw (missingField "module")
    | some "module" =>
      if module.isSome then throw (duplicateField "module")
      objectColon
      let m ← readString
      thirdPartyEntries fuel false (some m) aliases
    | some "alias" =>
      if aliases.isSome then throw (duplicateField "alias")
      objectColon
      let a ← readTable
      thirdPartyEntries fuel false module (some a)
    | some _ =>
      objectColon
      skipValue
      thirdPartyEntries fuel false module aliases

/-- The items of a third-party array: the module, then the alias table. -/
def thirdPartyItems : Reader RawThirdParty := do
  if !(← nextItem true) then throw (invalidLength 0 "struct RawThirdParty with 2 elements")
  let m ← readString
  if !(← nextItem false) then pure ⟨m, []⟩
  else pure ⟨m, ← readTable⟩

/-- The third-party section. -/
def readThirdParty : Reader RawThirdParty := withPosition do
  match ← skipBlank with
  | none => failAhead .eofWhileParsingValue
  | some 91 => do
    enter
    let r ← attempt thirdPartyItems
    leave
    closeWith r endSeq
  | some 123 => do
    enter
    let r ← attempt (do thirdPartyEntries (← restFuel) true none none)
    leave
    closeWith r endMap
  | some _ => foundWrong "struct RawThirdParty"

/-- The entries of an override: its `scope`, and the other entries buffered and read as
a document at the end. -/
def overrideEntries : Nat → Bool → Option String → Fields → Reader (String × RawConfig)
  | 0, _, _, _ => failAhead .recursionLimitExceeded
  | fuel + 1, first, scope, buffered => do
    match ← nextKey first with
    | none =>
      match scope with
      | none => throw (missingField "scope")
      | some s => pure (s, ← lift (ofBuffered buffered))
    | some "scope" =>
      if scope.isSome then throw (duplicateField "scope")
      objectColon
      let s ← readString
      overrideEntries fuel false (some s) buffered
    | some k =>
      objectColon
      let v ← readValue true (← restFuel)
      overrideEntries fuel false scope (buffered ++ [(k, v)])

/-- One override object. -/
def readOverride : Reader (String × RawConfig) := withPosition do
  match ← skipBlank with
  | none => failAhead .eofWhileParsingValue
  | some 123 => do
    enter
    let r ← attempt (do overrideEntries (← restFuel) true none [])
    leave
    closeWith r endMap
  | some _ => foundWrong "struct RawOverride"

/-- Reads the value of the field `key` into a document. -/
def readField (c : RawConfig) (key : String) : Reader RawConfig := do
  match key with
  | "root" => pure { c with root := ← readOption (readSeq readString) }
  | "cwd" => pure { c with cwd := ← readOption readString }
  | "extensions" => pure { c with extensions := ← readOption (readSeq readString) }
  | "extensionRewrites" => pure { c with extensionRewrites := ← readOption readTable }
  | "alias" => pure { c with aliases := ← readOption readTable }
  | "thirdParty" => pure { c with thirdParty := ← readOption readThirdParty }
  | "loglevel" => pure { c with loglevel := ← readOption readLogLevel }
  | "verifyExternalAliases" => pure { c with verifyExternalAliases := ← readOption readBool }
  | "overrides" => pure { c with overrides := ← readSeq readOverride }
  | _ => do skipValue; pure c

/-- The entries of a document object: a known key given twice is refused, unknown keys
are skipped. -/
def configEntries : Nat → Bool → List String → RawConfig → Reader RawConfig
  | 0, _, _, _ => failAhead .recursionLimitExceeded
  | fuel + 1, first, seen, c => do
    match ← nextKey first with
    | none => pure c
    | some k =>
      if fieldNames.contains k then
        if seen.contains k then throw (duplicateField k)
        objectColon
        configEntries fuel false (k :: seen) (← readField c k)
      else
        objectColon
        skipValue
        configEntries fuel false seen c

/-- The items of a document array, one per field in order. -/
def configItems : List String → Bool → RawConfig → Reader RawConfig
  | [], _, c => pure c
  | k :: ks, first, c => do
    if ← nextItem first then configItems ks false (← readField c k)
    else pure c

/-- A document. -/
def readConfig : Reader RawConfig := withPosition do
  match ← skipBlank with
  | none => failAhead .eofWhileParsingValue
  | some 91 => do
    enter
    let r ← attempt (configItems fieldNames true {})
    leave
    closeWith r endSeq
  | some 123 => do
    enter
    let r ← attempt (do configEntries (← restFuel) true [] {})
    leave
    closeWith r endMap
  | some _ => foundWrong "struct RawOptions"

/-- The document a text stands for; anything but blanks after it is refused. -/
def ofText (text : String) : Except ReadError RawConfig :=
  let act : Reader RawConfig := do
    let c ← readConfig
    match ← skipBlank with
    | some _ => failAhead .trailingCharacters
    | none => pure c
  (act.run.run { bytes := text.toUTF8 }).1

end RawConfig

end ImportPath
