namespace StoreBench.Pattern

/-! What can be wrong with a pattern. -/

inductive Fault where
  | escapeEnds
  | escapeUnknown
  | hexEmpty
  | hexDigit
  | hexNoCharacter
  | backreference
  | propertyName
  | boundaryOrCountEnds
  | boundaryUnclosed
  | boundaryUnknown
  | classUnclosed
  | classEscape
  | rangeBoundary
  | rangeReversed
  | nothingToRepeat
  | countEmpty
  | countTooLarge
  | countUnclosed
  | countReversed
  | groupUnclosed
  | groupUnopened
  | lookAround
  | nameEmpty
  | nameInvalid
  | nameTwice
  | nameUnclosed
  | flagDangling
  | flagTwice
  | negationTwice
  | flagEnds
  | flagUnknown
  | tooDeep
  /-- A part that stands for single bytes might match a part of a character. -/
  | brokenCharacters
  | noUnicodeHere
  | noFolding
  | noShorthand
  | noProperty
  | noPropertyValue
  | noBoundary
  | tooLarge
  deriving DecidableEq, Repr

namespace Fault

def depthLimit : Nat := 250

def sizeLimit : Nat := 10485760

def message : Fault → String
  | .escapeEnds => "incomplete escape sequence, reached end of pattern prematurely"
  | .escapeUnknown => "unrecognized escape sequence"
  | .hexEmpty => "hexadecimal literal empty"
  | .hexDigit => "invalid hexadecimal digit"
  | .hexNoCharacter => "hexadecimal literal is not a Unicode scalar value"
  | .backreference => "backreferences are not supported"
  | .propertyName => "invalid Unicode character class"
  | .boundaryOrCountEnds =>
      "found either the beginning of a special word boundary or a bounded repetition on a \\b " ++
        "with an opening brace, but no closing brace"
  | .boundaryUnclosed =>
      "special word boundary assertion is either unclosed or contains an invalid character"
  | .boundaryUnknown =>
      "unrecognized special word boundary assertion, valid choices are: start, end, " ++
        "start-half or end-half"
  | .classUnclosed => "unclosed character class"
  | .classEscape => "invalid escape sequence found in character class"
  | .rangeBoundary => "invalid range boundary, must be a literal"
  | .rangeReversed => "invalid character class range, the start must be <= the end"
  | .nothingToRepeat => "repetition operator missing expression"
  | .countEmpty => "repetition quantifier expects a valid decimal"
  | .countTooLarge => "decimal literal invalid"
  | .countUnclosed => "unclosed counted repetition"
  | .countReversed => "invalid repetition count range, the start must be <= the end"
  | .groupUnclosed => "unclosed group"
  | .groupUnopened => "unopened group"
  | .lookAround => "look-around, including look-ahead and look-behind, is not supported"
  | .nameEmpty => "empty capture group name"
  | .nameInvalid => "invalid capture group character"
  | .nameTwice => "duplicate capture group name"
  | .nameUnclosed => "unclosed capture group name"
  | .flagDangling => "dangling flag negation operator"
  | .flagTwice => "duplicate flag"
  | .negationTwice => "flag negation operator repeated"
  | .flagEnds => "expected flag but got end of regex"
  | .flagUnknown => "unrecognized flag"
  | .tooDeep =>
      "exceed the maximum number of nested parentheses/brackets (" ++ toString depthLimit ++ ")"
  | .brokenCharacters => "pattern can match invalid UTF-8"
  | .noUnicodeHere => "Unicode not allowed here"
  | .noFolding =>
      "Unicode-aware case insensitivity matching is not available (make sure the " ++
        "unicode-case feature is enabled)"
  | .noShorthand =>
      "Unicode-aware Perl class not found (make sure the unicode-perl feature is enabled)"
  | .noProperty => "Unicode property not found"
  | .noPropertyValue => "Unicode property value not found"
  | .noBoundary => "error building NFA"
  | .tooLarge => "Compiled regex exceeds size limit of " ++ toString sizeLimit ++ " bytes."

/-- The whole report of a fault. All but the last two kinds are found while the pattern is
read, and the report says so on a line of its own. -/
def report (fault : Fault) : String :=
  match fault with
  | .noBoundary | .tooLarge => fault.message
  | _ => "regex parse error:\nerror: " ++ fault.message

end Fault
end StoreBench.Pattern
