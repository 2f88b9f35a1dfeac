import Playback.Text.Digits
import Playback.Yaml.Gap

/-!
# Quoted texts in YAML

In single quotes a quote is written twice; in double quotes a backslash begins an escape. Line ends
are folded unless a backslash stands before them.
-/

namespace Playback.Yaml

open Text

/-- The character that a character behind a backslash stands for in double quotes. -/
def escaped? : Char → Option Char
  | '0' => some '\x00'
  | 'a' => some '\x07'
  | 'b' => some '\x08'
  | 't' | '\t' => some '\t'
  | 'n' => some '\n'
  | 'v' => some '\x0b'
  | 'f' => some '\x0c'
  | 'r' => some '\r'
  | 'e' => some '\x1b'
  | ' ' => some ' '
  | '"' => some '"'
  | '/' => some '/'
  | '\\' => some '\\'
  | 'N' => some '\u0085'
  | '_' => some '\u00a0'
  | 'L' => some '\u2028'
  | 'P' => some '\u2029'
  | _ => none

/-- The number of hexadecimal digits behind an escape that takes some. -/
def escapeDigits? : Char → Option Nat
  | 'x' => some 2
  | 'u' => some 4
  | 'U' => some 8
  | _ => none

/-- The character with a number in hexadecimal digits, if there is one. -/
def charOfHex? (digits : List Char) : Option Char := do
  charOf? (radixValue 16 (← digits.mapM hexDigit?))

/-- An escape in double quotes behind its backslash: what it stands for, and its length. -/
def readEscape (cs : List Char) : Option (Char × Nat) :=
  match cs with
  | [] => none
  | c :: rest =>
    match escapeDigits? c with
    | some size =>
      if size ≤ rest.length then (charOfHex? (rest.take size)).map (·, size + 1) else none
    | none => (escaped? c).map (·, 1)

namespace Scan

/-- The characters of a quoted text up to a blank, a line end or the closing quote. `text` holds
those so far, the last one first. The second part of the result tells whether a line end behind a
backslash follows them, which has been moved past. -/
def quotedWord (quote : Char) (text : List Char) : (fuel : Nat) → Scan (List Char × Bool)
  | 0 => fail .unfinished
  | fuel + 1 => do
    match ← remaining with
    | [] => return (text, false)
    | c :: rest =>
      if isBlank c || isBreak c then return (text, false)
      else if c = quote then
        if quote = '\'' && rest.head? = some '\'' then
          skipSigns 2
          quotedWord quote ('\'' :: text) fuel
        else return (text, false)
      else if quote = '"' && c = '\\' then
        if rest.head?.any isBreak then
          skipSigns 1
          skipBreak
          return (text, true)
        else
          match readEscape rest with
          | some (e, size) =>
            skipSigns (size + 1)
            quotedWord quote (e :: text) fuel
          | none => fail .badEscape
      else
        skipSigns 1
        quotedWord quote (c :: text) fuel

/-- The gap behind a word of a quoted text. Tabs do not indent a line. -/
def quotedGap (gap : Gap) : (fuel : Nat) → Scan Gap
  | 0 => fail .unfinished
  | fuel + 1 => do
    match ← peek with
    | none => return gap
    | some c =>
      if isBreak c then
        skipBreak
        quotedGap gap.addBreak fuel
      else if !isBlank c then return gap
      else
        if gap.newLine && c = '\t' && decide ((← column) < (← get).indent) then fail .tabIndent
        skip 1
        quotedGap (if gap.newLine then gap else gap.addBlank c) fuel

/-- The words of a quoted text up to its closing quote, where `text` holds the characters so far,
the last one first. Its lines must be indented, and no document may start or end inside it. -/
def quotedWords (quote : Char) (text : List Char) : (fuel : Nat) → Scan (List Char)
  | 0 => fail .unfinished
  | fuel + 1 => do
    let s ← get
    if s.mark.column = 0 && startsWithMarker s.rest then fail .unexpected
    if s.rest.isEmpty then fail .unclosed
    if (s.mark.column : Int) < s.indent then fail .badIndent
    let (text, escaped) ← quotedWord quote text (s.size + 1)
    if (← peek) = some quote then return text
    let gap ← quotedGap (.start escaped) (s.size + 1)
    quotedWords quote (gap.text.reverse ++ text) fuel

/-- A text in quotes. On its last line only a sign of brackets and braces or the colon of a key may
follow, which outside of them stands on the line where the text starts. -/
def quotedText (quote : Char) : Scan String := do
  let s ← get
  skipSigns 1
  let text ← quotedWords quote [] (s.size + 2)
  skipSigns 1
  discard <| toLineEnd true
  let rest ← remaining
  let flow ← inFlow
  let line := (← get).mark.line
  let follows := rest.head?.any fun c =>
    if flow then c == ',' || c == '}' || c == ']' || c == ':'
    else c == ':' && s.mark.line == line
  if !endsLine rest && !follows then fail .unexpected
  return String.ofList text.reverse

end Scan

end Playback.Yaml
