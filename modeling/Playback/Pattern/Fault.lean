/-!
# Pattern faults

Why a text is not a pattern.
-/

namespace Playback.Pattern

/-- Why a text is not a pattern. -/
inductive Fault where
  /-- A repetition sign with nothing before it to repeat. -/
  | nothingToRepeat
  /-- A repetition count without its closing brace. -/
  | countUnclosed
  /-- A repetition count without a number. -/
  | countEmpty
  /-- A number beyond 32 bits. -/
  | numberTooLarge
  /-- A repetition whose least count exceeds its greatest. -/
  | countReversed
  /-- A group without its closing parenthesis. -/
  | groupUnclosed
  /-- A closing parenthesis without its group. -/
  | groupUnopened
  /-- A group name that is empty, unclosed or has a character that names lack. -/
  | groupNameInvalid
  /-- A group name that another group has. -/
  | groupNameRepeated
  /-- Look-ahead or look-behind. -/
  | lookAround
  /-- A reference to an earlier group. -/
  | backReference
  /-- A flag that patterns lack. -/
  | flagUnknown
  /-- A flag or a flag negation that stands twice, or a negation of nothing. -/
  | flagMisplaced
  /-- The text ends inside a flag group. -/
  | flagsUnclosed
  /-- The text ends inside an escape. -/
  | escapeUnclosed
  /-- An escape that patterns lack. -/
  | escapeUnknown
  /-- A hexadecimal escape with a wrong digit, no digit or no character. -/
  | hexInvalid
  /-- A word boundary with an unknown or unclosed kind. -/
  | wordBoundaryInvalid
  /-- A property or property value that does not exist. -/
  | propertyUnknown
  /-- A character or property beyond ASCII where the flag `u` is not set. -/
  | asciiOnly
  /-- A set that would match parts of characters. -/
  | notText
  /-- A class without its closing bracket. -/
  | classUnclosed
  /-- An escape that is no set of characters, inside a class. -/
  | classEscapeInvalid
  /-- A range whose ends are no characters or are reversed. -/
  | rangeInvalid
  /-- Parts that lie in one another more than 250 deep. -/
  | tooDeep
  /-- More than the largest size when repetitions are written out. -/
  | tooLarge
  /-- The reader's step limit was reached, which no text does. -/
  | unfinished
  deriving DecidableEq, Repr

/-- The wording of a fault. -/
def Fault.message (fault : Fault) : String :=
  let unreadable (cause : String) := "regex parse error: " ++ cause
  match fault with
  | .nothingToRepeat => unreadable "repetition operator missing expression"
  | .countUnclosed => unreadable "unclosed counted repetition"
  | .countEmpty => unreadable "repetition quantifier expects a valid decimal"
  | .numberTooLarge => unreadable "decimal literal invalid"
  | .countReversed => unreadable "invalid repetition count range, the start must be <= the end"
  | .groupUnclosed => unreadable "unclosed group"
  | .groupUnopened => unreadable "unopened group"
  | .groupNameInvalid => unreadable "invalid capture group name"
  | .groupNameRepeated => unreadable "duplicate capture group name"
  | .lookAround => unreadable "look-around is not supported"
  | .backReference => unreadable "backreferences are not supported"
  | .flagUnknown => unreadable "unrecognized flag"
  | .flagMisplaced => unreadable "duplicate flag or dangling flag negation"
  | .flagsUnclosed => unreadable "expected flag but got end of pattern"
  | .escapeUnclosed => unreadable "incomplete escape sequence, reached end of pattern prematurely"
  | .escapeUnknown => unreadable "unrecognized escape sequence"
  | .hexInvalid => unreadable "invalid hexadecimal escape"
  | .wordBoundaryInvalid => unreadable "invalid special word boundary"
  | .propertyUnknown => unreadable "Unicode property not found"
  | .asciiOnly => unreadable "Unicode not allowed here"
  | .notText => unreadable "pattern can match invalid UTF-8"
  | .classUnclosed => unreadable "unclosed character class"
  | .classEscapeInvalid => unreadable "invalid escape sequence found in character class"
  | .rangeInvalid => unreadable "invalid character class range"
  | .tooDeep => unreadable "exceeds the maximum number of nested parentheses/brackets (250)"
  | .tooLarge => "Compiled regex exceeds size limit of 10485760 bytes."
  | .unfinished => unreadable "pattern too long"

end Playback.Pattern
