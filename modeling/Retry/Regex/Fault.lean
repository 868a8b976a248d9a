/-! The reasons for which a text is not a pattern. -/
namespace Retry.Regex

inductive Fault where
  | tooManyGroups
  | classEscape
  | classRange
  | classRangeLiteral
  | classUnclosed
  | decimalEmpty
  | decimalInvalid
  | hexEmpty
  | hexInvalid
  | hexDigit
  | escapeUnfinished
  | escapeUnknown
  | flagDangling
  | flagRepeated
  | flagNegatedTwice
  | flagUnfinished
  | flagUnknown
  | groupNameRepeated
  | groupNameEmpty
  | groupNameInvalid
  | groupNameUnclosed
  | groupUnclosed
  | groupUnopened
  | tooDeep
  | countInvalid
  | countEmpty
  | countUnclosed
  | repetitionMissing
  | boundaryUnclosed
  | boundaryUnknown
  | boundaryOrCountUnclosed
  | classNameInvalid
  | backreference
  | lookAround
  | unicodeNotAllowed
  | invalidUtf8
  | propertyUnknown
  | propertyValueUnknown
  | tooLarge
deriving DecidableEq

/-- Patterns may nest this deep. -/
def depthLimit : Nat := 250

/-- A compiled pattern may take this many bytes. -/
def sizeLimit : Nat := 10485760

def Fault.message : Fault → String
  | .tooManyGroups => "error: exceeded the maximum number of capturing groups (4294967295)"
  | .classEscape => "error: invalid escape sequence found in character class"
  | .classRange => "error: invalid character class range, the start must be <= the end"
  | .classRangeLiteral => "error: invalid range boundary, must be a literal"
  | .classUnclosed => "error: unclosed character class"
  | .decimalEmpty => "error: decimal literal empty"
  | .decimalInvalid => "error: decimal literal invalid"
  | .hexEmpty => "error: hexadecimal literal empty"
  | .hexInvalid => "error: hexadecimal literal is not a Unicode scalar value"
  | .hexDigit => "error: invalid hexadecimal digit"
  | .escapeUnfinished => "error: incomplete escape sequence, reached end of pattern prematurely"
  | .escapeUnknown => "error: unrecognized escape sequence"
  | .flagDangling => "error: dangling flag negation operator"
  | .flagRepeated => "error: duplicate flag"
  | .flagNegatedTwice => "error: flag negation operator repeated"
  | .flagUnfinished => "error: expected flag but got end of regex"
  | .flagUnknown => "error: unrecognized flag"
  | .groupNameRepeated => "error: duplicate capture group name"
  | .groupNameEmpty => "error: empty capture group name"
  | .groupNameInvalid => "error: invalid capture group character"
  | .groupNameUnclosed => "error: unclosed capture group name"
  | .groupUnclosed => "error: unclosed group"
  | .groupUnopened => "error: unopened group"
  | .tooDeep => "error: exceed the maximum number of nested parentheses/brackets (" ++ toString depthLimit ++ ")"
  | .countInvalid => "error: invalid repetition count range, the start must be <= the end"
  | .countEmpty => "error: repetition quantifier expects a valid decimal"
  | .countUnclosed => "error: unclosed counted repetition"
  | .repetitionMissing => "error: repetition operator missing expression"
  | .boundaryUnclosed =>
    "error: special word boundary assertion is either unclosed or contains an invalid character"
  | .boundaryUnknown =>
    "error: unrecognized special word boundary assertion, valid choices are: start, end, start-half or end-half"
  | .boundaryOrCountUnclosed =>
    "error: found either the beginning of a special word boundary or a bounded repetition on a \\b with an opening brace, but no closing brace"
  | .classNameInvalid => "error: invalid Unicode character class"
  | .backreference => "error: backreferences are not supported"
  | .lookAround => "error: look-around, including look-ahead and look-behind, is not supported"
  | .unicodeNotAllowed => "error: Unicode not allowed here"
  | .invalidUtf8 => "error: pattern can match invalid UTF-8"
  | .propertyUnknown => "error: Unicode property not found"
  | .propertyValueUnknown => "error: Unicode property value not found"
  | .tooLarge => "Compiled regex exceeds size limit of " ++ toString sizeLimit ++ " bytes."

end Retry.Regex
