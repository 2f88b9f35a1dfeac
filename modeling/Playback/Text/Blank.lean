/-!
# Blank characters

The characters with the Unicode property `White_Space`, and trimming by them.
-/

namespace Playback.Text

/-- The characters of the Unicode property `White_Space`. -/
def isBlank (c : Char) : Bool :=
  let n := c.toNat
  (9 ≤ n && n ≤ 13) || n == 32 || n == 0x85 || n == 0xA0 || n == 0x1680 ||
    (0x2000 ≤ n && n ≤ 0x200A) || n == 0x2028 || n == 0x2029 || n == 0x202F ||
    n == 0x205F || n == 0x3000

/-- The text without its trailing blanks. -/
def dropEndBlanks (cs : List Char) : List Char :=
  (cs.reverse.dropWhile isBlank).reverse

/-- The text without blanks at either end. -/
def trimChars (cs : List Char) : List Char :=
  dropEndBlanks (cs.dropWhile isBlank)

/-- A text is blank when trimming leaves nothing. -/
def isBlankText (s : String) : Bool :=
  s.toList.all isBlank

end Playback.Text
