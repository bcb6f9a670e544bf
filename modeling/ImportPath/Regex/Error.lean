/-!
# Why a pattern is refused

Each cause of refusal of a regular expression, with its message. The first refusal met
while reading the pattern from left to right is the one reported; nesting deeper than
the limit is found after reading, and a compiled program above the size limit last.
-/

namespace ImportPath

namespace Regex

/-- The causes for refusing a pattern. -/
inductive ParseError where
  | tooMuchNesting
  | tooManyCaptures
  | duplicateCaptureName
  | unclosedGroup
  | unclosedGroupQuestion
  | unopenedGroup
  | lookAroundUnsupported
  | emptyFlags
  | missingGroupName
  | invalidGroupName
  | unclosedGroupName
  | emptyGroupName
  | flagUnrecognized
  | flagRepeatedNegation
  | flagDuplicate
  | flagUnexpectedEnd
  | flagDanglingNegation
  | decimalNoDigits
  | decimalInvalid
  | hexBraceInvalidDigit
  | hexBraceUnexpectedEnd
  | hexBraceEmpty
  | hexBraceInvalid
  | hexFixedUnexpectedEnd
  | hexFixedInvalidDigit
  | hexFixedInvalid
  | hexUnexpectedEnd
  | escapeUnexpectedEnd
  | backreferenceUnsupported
  | unicodeClassUnsupported
  | escapeUnrecognized
  | posixClassUnrecognized
  | uncountedRepetitionMissing
  | countedRepetitionMissing
  | countedRepetitionUnclosed
  | countedRepetitionMinUnclosed
  | countedRepetitionCommaUnclosed
  | countedRepetitionMinMaxUnclosed
  | countedRepetitionInvalid
  | countedRepetitionInvalidRange
  | classUnclosedAfterItem
  | classInvalidRangeItem
  | classInvalidItem
  | classUnclosedAfterDash
  | classUnclosedAfterNegation
  | classUnclosedAfterClosing
  | classInvalidRange
  | classUnclosed
  | classNestUnsupported
  | classIntersectionUnsupported
  | classDifferenceUnsupported
  | classSymmetricDifferenceUnsupported
  | specialWordBoundaryUnclosed
  | specialWordBoundaryUnrecognized
  | specialWordOrRepetitionUnexpectedEnd
  | programTooBig
  deriving DecidableEq, Repr, Inhabited

/-- The message of a refusal. -/
def ParseError.message : ParseError → String
  | .tooMuchNesting => "pattern has too much nesting"
  | .tooManyCaptures => "too many capture groups"
  | .duplicateCaptureName => "duplicate capture group name"
  | .unclosedGroup => "found open group without closing ')'"
  | .unclosedGroupQuestion => "expected closing ')', but got end of pattern"
  | .unopenedGroup => "found closing ')' without matching '('"
  | .lookAroundUnsupported => "look-around is not supported"
  | .emptyFlags => "empty flag directive '(?)' is not allowed"
  | .missingGroupName => "expected capture group name, but got end of pattern"
  | .invalidGroupName => "invalid group name"
  | .unclosedGroupName => "expected end of capture group name, but got end of pattern"
  | .emptyGroupName => "empty capture group names are not allowed"
  | .flagUnrecognized => "unrecognized inline flag"
  | .flagRepeatedNegation => "inline flag negation cannot be repeated"
  | .flagDuplicate => "duplicate inline flag is not allowed"
  | .flagUnexpectedEnd => "expected ':' or ')' to end inline flags, but got end of pattern"
  | .flagDanglingNegation => "inline flags cannot end with negation directive"
  | .decimalNoDigits => "expected decimal number, but found no digits"
  | .decimalInvalid => "got invalid decimal number"
  | .hexBraceInvalidDigit => "expected hexadecimal number in braces, but got non-hex digit"
  | .hexBraceUnexpectedEnd =>
      "expected hexadecimal number, but saw end of pattern before closing brace"
  | .hexBraceEmpty => "expected hexadecimal number in braces, but got no digits"
  | .hexBraceInvalid => "got invalid hexadecimal number in braces"
  | .hexFixedUnexpectedEnd =>
      "expected fixed length hexadecimal number, but saw end of pattern first"
  | .hexFixedInvalidDigit => "expected fixed length hexadecimal number, but got non-hex digit"
  | .hexFixedInvalid => "got invalid fixed length hexadecimal number"
  | .hexUnexpectedEnd => "expected hexadecimal number, but saw end of pattern first"
  | .escapeUnexpectedEnd =>
      "saw start of escape sequence, but saw end of pattern before it finished"
  | .backreferenceUnsupported => "backreferences are not supported"
  | .unicodeClassUnsupported => "Unicode character classes are not supported"
  | .escapeUnrecognized => "unrecognized escape sequence"
  | .posixClassUnrecognized => "unrecognized POSIX character class"
  | .uncountedRepetitionMissing =>
      "uncounted repetition operator must be applied to a sub-expression"
  | .countedRepetitionMissing =>
      "counted repetition operator must be applied to a sub-expression"
  | .countedRepetitionUnclosed => "found unclosed counted repetition operator"
  | .countedRepetitionMinUnclosed => "found incomplete and unclosed counted repetition operator"
  | .countedRepetitionCommaUnclosed =>
      "found counted repetition operator with a comma that is unclosed"
  | .countedRepetitionMinMaxUnclosed =>
      "found counted repetition with min and max that is unclosed"
  | .countedRepetitionInvalid =>
      "expected closing brace for counted repetition, but got something else"
  | .countedRepetitionInvalidRange => "found counted repetition with a min bigger than its max"
  | .classUnclosedAfterItem => "non-empty character class has no closing bracket"
  | .classInvalidRangeItem => "character class ranges must start and end with a single character"
  | .classInvalidItem => "invalid escape sequence in character class"
  | .classUnclosedAfterDash => "non-empty character class has no closing bracket after dash"
  | .classUnclosedAfterNegation => "negated character class has no closing bracket"
  | .classUnclosedAfterClosing =>
      "character class begins with literal ']' but has no closing bracket"
  | .classInvalidRange => "invalid range in character class"
  | .classUnclosed => "found unclosed character class"
  | .classNestUnsupported => "nested character classes are not supported"
  | .classIntersectionUnsupported => "character class intersection is not supported"
  | .classDifferenceUnsupported => "character class difference is not supported"
  | .classSymmetricDifferenceUnsupported =>
      "character class symmetric difference is not supported"
  | .specialWordBoundaryUnclosed =>
      "special word boundary assertion is unclosed or has an invalid character"
  | .specialWordBoundaryUnrecognized => "special word boundary assertion is unrecognized"
  | .specialWordOrRepetitionUnexpectedEnd =>
      "found start of special word boundary or repetition without an end"
  | .programTooBig => "compiled regex exceeded size limit"

end Regex

end ImportPath
