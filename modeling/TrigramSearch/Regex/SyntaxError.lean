/-!
# Errors in patterns

Everything that can make a pattern unacceptable, with its text. Where several faults are present
the one is reported that a reader going from left to right meets first; faults of meaning
(properties, byte semantics) are looked for only when the whole pattern can be read.
-/

namespace TrigramSearch.Regex

/-- Why a text is not a pattern. -/
inductive SyntaxError where
  | groupUnclosed
  | groupUnopened
  | groupNameUnclosed
  | groupNameEmpty
  | groupNameInvalid
  | groupNameDuplicate
  | lookAroundUnsupported
  | classUnclosed
  | classEscapeInvalid
  | classRangeInvalid
  | classRangeLiteral
  | repetitionMissing
  | repetitionCountEmpty
  | repetitionCountInvalid
  | repetitionCountUnclosed
  | decimalInvalid
  | escapeEnd
  | escapeUnrecognized
  | backreferenceUnsupported
  | hexEmpty
  | hexInvalidDigit
  | hexInvalid
  | unicodeClassInvalid
  | wordBoundaryUnclosed
  | wordBoundaryUnrecognized
  | wordBoundaryEnd
  | flagDanglingNegation
  | flagDuplicate
  | flagRepeatedNegation
  | flagEnd
  | flagUnrecognized
  | nestLimitExceeded (limit : Nat)
  | unicodeNotAllowed
  | invalidUtf8
  | propertyNotFound
  | propertyValueNotFound
deriving DecidableEq, Inhabited

def SyntaxError.message : SyntaxError → String
  | groupUnclosed => "unclosed group"
  | groupUnopened => "unopened group"
  | groupNameUnclosed => "unclosed capture group name"
  | groupNameEmpty => "empty capture group name"
  | groupNameInvalid => "invalid capture group character"
  | groupNameDuplicate => "duplicate capture group name"
  | lookAroundUnsupported =>
    "look-around, including look-ahead and look-behind, is not supported"
  | classUnclosed => "unclosed character class"
  | classEscapeInvalid => "invalid escape sequence found in character class"
  | classRangeInvalid => "invalid character class range, the start must be <= the end"
  | classRangeLiteral => "invalid range boundary, must be a literal"
  | repetitionMissing => "repetition operator missing expression"
  | repetitionCountEmpty => "repetition quantifier expects a valid decimal"
  | repetitionCountInvalid =>
    "invalid repetition count range, the start must be <= the end"
  | repetitionCountUnclosed => "unclosed counted repetition"
  | decimalInvalid => "decimal literal invalid"
  | escapeEnd => "incomplete escape sequence, reached end of pattern prematurely"
  | escapeUnrecognized => "unrecognized escape sequence"
  | backreferenceUnsupported => "backreferences are not supported"
  | hexEmpty => "hexadecimal literal empty"
  | hexInvalidDigit => "invalid hexadecimal digit"
  | hexInvalid => "hexadecimal literal is not a Unicode scalar value"
  | unicodeClassInvalid => "invalid Unicode character class"
  | wordBoundaryUnclosed =>
    "special word boundary assertion is either unclosed or contains an invalid character"
  | wordBoundaryUnrecognized =>
    "unrecognized special word boundary assertion, valid choices are: start, end, start-half " ++
      "or end-half"
  | wordBoundaryEnd =>
    "found either the beginning of a special word boundary or a bounded repetition on a \\b " ++
      "with an opening brace, but no closing brace"
  | flagDanglingNegation => "dangling flag negation operator"
  | flagDuplicate => "duplicate flag"
  | flagRepeatedNegation => "flag negation operator repeated"
  | flagEnd => "expected flag but got end of regex"
  | flagUnrecognized => "unrecognized flag"
  | nestLimitExceeded limit =>
    "exceed the maximum number of nested parentheses/brackets (" ++ toString limit ++ ")"
  | unicodeNotAllowed => "Unicode not allowed here"
  | invalidUtf8 => "pattern can match invalid UTF-8"
  | propertyNotFound => "Unicode property not found"
  | propertyValueNotFound => "Unicode property value not found"

end TrigramSearch.Regex
