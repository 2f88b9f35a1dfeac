import Playback.Pattern.CharSet

/-!
# Flags of patterns

What can be switched on and off inside a pattern, and what that does to the sets of characters.
-/

namespace Playback.Pattern

/-- The flags of a pattern. -/
structure Flags where
  /-- `i`: characters match characters that differ by case. -/
  ignoreCase : Bool
  /-- `m`: `^` and `$` match at the ends of lines. -/
  multiLine : Bool
  /-- `s`: `.` matches the ends of lines too. -/
  dotAll : Bool
  /-- `R`: carriage returns end lines as line feeds do. -/
  returns : Bool
  /-- `U`: repetitions prefer the shorter way, and those with `?` the longer one. -/
  swapGreed : Bool
  /-- `u`: characters of all alphabets count, not those of ASCII alone. -/
  wide : Bool
  /-- `x`: blanks and comments in the pattern text are skipped. -/
  spaced : Bool

namespace Flags

/-- The flags at the start of a pattern. -/
def start : Flags :=
  ⟨false, false, false, false, false, true, false⟩

/-- Set or clear the flag that a letter names; none if no flag has the letter. -/
def set? (flags : Flags) (letter : Char) (value : Bool) : Option Flags :=
  match letter with
  | 'i' => some { flags with ignoreCase := value }
  | 'm' => some { flags with multiLine := value }
  | 's' => some { flags with dotAll := value }
  | 'R' => some { flags with returns := value }
  | 'U' => some { flags with swapGreed := value }
  | 'u' => some { flags with wide := value }
  | 'x' => some { flags with spaced := value }
  | _ => none

/-- The set, closed under changes of case if the flags ask for it. -/
def fold (flags : Flags) (a : CharSet) : CharSet :=
  if !flags.ignoreCase then a else if flags.wide then .folded a else .foldedAscii a

/-- The characters that a dot stands for when it may not stand for the end of a line. -/
def inLine (flags : Flags) : CharSet :=
  .complement (.spans (if flags.returns then [('\n', '\n'), ('\r', '\r')] else [('\n', '\n')]))

end Flags

end Playback.Pattern
