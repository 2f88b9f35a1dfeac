import Playback.Yaml.Scanner

/-!
# Gaps in texts

What parts two words of a text without or in quotes: blanks on one line remain, a single line end
becomes a blank, and of several all but the first remain.
-/

namespace Playback.Yaml

/-- What parts two words of a text. -/
structure Gap where
  /-- The blanks on the line of the first word, the last one first. -/
  blanks : List Char
  /-- Whether the second word stands on a later line. -/
  newLine : Bool
  /-- Whether the first line end counts. -/
  broken : Bool
  /-- The number of further line ends. -/
  breaks : Nat

namespace Gap

/-- The gap before anything has been read of it. -/
def start (newLine : Bool) : Gap :=
  ⟨[], newLine, false, 0⟩

/-- The gap with one more blank of its first line. -/
def addBlank (gap : Gap) (c : Char) : Gap :=
  { gap with blanks := c :: gap.blanks }

/-- The gap with one more line end. -/
def addBreak (gap : Gap) : Gap :=
  if gap.newLine then { gap with breaks := gap.breaks + 1 } else ⟨[], true, true, 0⟩

/-- What stands for the gap in the text. -/
def text (gap : Gap) : List Char :=
  if !gap.newLine then gap.blanks.reverse
  else if gap.broken && gap.breaks = 0 then [' ']
  else List.replicate gap.breaks '\n'

end Gap

end Playback.Yaml
