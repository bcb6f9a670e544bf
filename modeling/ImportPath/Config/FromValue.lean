import ImportPath.Config.Raw
import ImportPath.Json.Error

/-!
# Reading a configuration document from a JSON value

A document is an object whose known keys are checked and unknown keys ignored, or an
array giving the fields in their order (missing ones left unset). Failures name what
was found and what was expected, without a position.

An override object holds its `scope` and, beside it, any document keys; those are
buffered as written, every entry kept, and read as a document of their own once the
object has been read. A buffered tree differs from a parsed value in three ways: an object
may repeat a key (a repeated document key is refused), an array with too many items is
reported by the count of items used, and an empty object stands for nothing as null does.

## What this module delivers

- `RawConfig.ofJson`, the document a JSON value stands for, or the first failure.
- `RawConfig.ofBuffered`, the document made of buffered entries.
-/

namespace ImportPath

namespace RawConfig

open Json

/-- Where a tree comes from: a parsed value, or entries buffered while reading. -/
inductive Source where
  | parsed
  | buffered
  deriving DecidableEq, Inhabited

/-- Decoding a tree, stopping at the first failure. -/
abbrev Decoding := Except ReadError

/-- A string. -/
def expectString : Json → Decoding String
  | .string s => pure s
  | v => throw (invalidType (unexpected v) "a string")

/-- A boolean. -/
def expectBool : Json → Decoding Bool
  | .bool b => pure b
  | v => throw (invalidType (unexpected v) "a boolean")

/-- An optional value: null leaves it unset. -/
def optional {α : Type} (dec : Json → Decoding α) : Json → Decoding (Option α)
  | .null => pure none
  | v => some <$> dec v

/-- A list of strings. -/
def stringList : Json → Decoding (List String)
  | .array items => items.mapM expectString
  | v => throw (invalidType (unexpected v) "a sequence")

/-- A table of JSON values by key; a repeated key keeps its first position and takes the
later value. -/
def table : Json → Decoding Fields
  | .object fs => pure (fs.foldl (fun acc (k, v) => acc.insert k v) [])
  | v => throw (invalidType (unexpected v) "a map")

/-- The value that stands for nothing: null, and in a buffered tree also the empty
object, which is how an entry without content is kept there. -/
def expectUnit (src : Source) : Json → Decoding Unit
  | .null => pure ()
  | .object [] => if src = .buffered then pure () else throw (invalidType .map "unit")
  | v => throw (invalidType (unexpected v) "unit")

/-- The level named by a string, or by the single key of an object whose value stands
for nothing. -/
def logLevel (src : Source) : Json → Decoding LogLevel
  | .string s => variant s
  | .object [(k, v)] => do
    let l ← variant k
    expectUnit src v
    pure l
  | .object _ => throw (invalidValue .map "map with a single key")
  | v => throw (invalidType (unexpected v) "string or map")
where
  /-- The level of a name. -/
  variant (s : String) : Decoding LogLevel :=
    match LogLevel.ofName? s with
    | some l => pure l
    | none => throw (unknownVariant s LogLevel.names)

/-- An array with more items than a record has fields. -/
def tooLong (src : Source) (used total : Nat) : ReadError :=
  match src with
  | .parsed => invalidLength total "fewer elements in array"
  | .buffered =>
    invalidLength total (if used = 1 then "1 element in sequence"
      else toString used ++ " elements in sequence")

/-- The third-party section: an object with a required `module` and an optional
`alias` table, or an array of the two. -/
def thirdPartySection (src : Source) : Json → Decoding RawThirdParty
  | .array items => do
    match items with
    | [] => throw (invalidLength 0 "struct RawThirdParty with 2 elements")
    | m :: rest =>
      let module ← expectString m
      match rest with
      | [] => pure ⟨module, []⟩
      | a :: more =>
        let aliases ← table a
        if more.isEmpty then pure ⟨module, aliases⟩ else throw (tooLong src 2 items.length)
  | .object fs => do
    let (module, aliases) ← fs.foldlM (fun (acc : Option String × Option Fields) (k, v) =>
      match k with
      | "module" =>
        if acc.1.isSome then throw (duplicateField "module")
        else do pure (some (← expectString v), acc.2)
      | "alias" =>
        if acc.2.isSome then throw (duplicateField "alias")
        else do pure (acc.1, some (← table v))
      | _ => pure acc) (none, none)
    match module with
    | some m => pure ⟨m, aliases.getD []⟩
    | none => throw (missingField "module")
  | v => throw (invalidType (unexpected v) "struct RawThirdParty")

/-- Sets the field `key` of a document from a value; `ovr` reads one override. -/
def setField (ovr : Json → Decoding (String × RawConfig)) (src : Source) (c : RawConfig)
    (key : String) (v : Json) : Decoding RawConfig :=
  match key with
  | "root" => do pure { c with root := ← optional stringList v }
  | "cwd" => do pure { c with cwd := ← optional expectString v }
  | "extensions" => do pure { c with extensions := ← optional stringList v }
  | "extensionRewrites" => do pure { c with extensionRewrites := ← optional table v }
  | "alias" => do pure { c with aliases := ← optional table v }
  | "thirdParty" => do pure { c with thirdParty := ← optional (thirdPartySection src) v }
  | "loglevel" => do pure { c with loglevel := ← optional (logLevel src) v }
  | "verifyExternalAliases" => do
    pure { c with verifyExternalAliases := ← optional expectBool v }
  | "overrides" =>
    match v with
    | .array items => do pure { c with overrides := ← items.mapM ovr }
    | other => throw (invalidType (unexpected other) "a sequence")
  | _ => pure c

/-- A document from the entries of an object, in order: a known key given twice is
refused, unknown keys are ignored. -/
def ofEntries (ovr : Json → Decoding (String × RawConfig)) (src : Source) :
    List String → RawConfig → Fields → Decoding RawConfig
  | _, c, [] => pure c
  | seen, c, (k, v) :: rest =>
    if fieldNames.contains k then
      if seen.contains k then throw (duplicateField k)
      else do ofEntries ovr src (k :: seen) (← setField ovr src c k v) rest
    else ofEntries ovr src seen c rest

/-- A document from the items of an array, one per field in order. -/
def ofItems (ovr : Json → Decoding (String × RawConfig)) (src : Source) :
    List String → RawConfig → List Json → Decoding RawConfig
  | [], c, _ => pure c
  | _, c, [] => pure c
  | k :: ks, c, v :: vs => do ofItems ovr src ks (← setField ovr src c k v) vs

/-- A document from a value. -/
def ofTree (ovr : Json → Decoding (String × RawConfig)) (src : Source) :
    Json → Decoding RawConfig
  | .object fs => ofEntries ovr src [] {} fs
  | .array items => do
    let c ← ofItems ovr src fieldNames {} items
    if items.length > fieldNames.length then throw (tooLong src fieldNames.length items.length)
    else pure c
  | v => throw (invalidType (unexpected v) "struct RawOptions")

/-- An override: its `scope` and the document made of its other entries, buffered;
`fuel` bounds the nesting of overrides. -/
def override : Nat → Json → Decoding (String × RawConfig)
  | 0, _ => throw (ReadError.custom "recursion limit exceeded")
  | fuel + 1, .object fs => do
    let (scope, rest) ← fs.foldlM (fun (acc : Option String × Fields) (k, v) =>
      if k == "scope" then
        if acc.1.isSome then throw (duplicateField "scope")
        else do pure (some (← expectString v), acc.2)
      else pure (acc.1, acc.2 ++ [(k, v)])) (none, [])
    match scope with
    | none => throw (missingField "scope")
    | some s => pure (s, ← ofEntries (override fuel) .buffered [] {} rest)
  | _, v => throw (invalidType (unexpected v) "struct RawOverride")

/-- The document made of entries buffered beside an override's scope. -/
def ofBuffered (entries : Fields) : Decoding RawConfig :=
  ofEntries (override (depthFields entries + 1)) .buffered [] {} entries

/-- The document a parsed JSON value stands for. -/
def ofJson (v : Json) : Decoding RawConfig :=
  ofTree (override (v.depth + 1)) .parsed v

end RawConfig

end ImportPath
