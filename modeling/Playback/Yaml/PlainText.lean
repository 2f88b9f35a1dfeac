import Playback.Yaml.Gap
import Playback.Yaml.Indentation

/-!
# Plain texts in YAML

A text without quotes ends where a sign of the document's structure follows, and outside of brackets
and braces where a line is not indented beyond the list or map that holds it.
-/

namespace Playback.Yaml

/-- Whether a plain text cannot go on with a character that is no blank: with a colon before a
blank, or inside brackets and braces with one of their signs. -/
def endsPlain (flow : Bool) (c : Char) (rest : List Char) : Bool :=
  (c == ':' && (startsBlank rest || (flow && rest.head?.any isFlowSign))) || (flow && isFlowSign c)

/-- The characters of a plain text up to a blank or its end. -/
def plainWord (flow : Bool) : List Char → List Char
  | [] => []
  | c :: rest =>
    if isBlank c || isBreak c || endsPlain flow c rest then [] else c :: plainWord flow rest

namespace Scan

/-- The gap behind a word of a plain text. A tab indents a line only if nothing else is on it but a
comment. -/
def plainGap (indent : Int) (gap : Gap) : (fuel : Nat) → Scan Gap
  | 0 => fail .unfinished
  | fuel + 1 => do
    match ← peek with
    | none => return gap
    | some c =>
      if isBreak c then
        skipBreak
        plainGap indent gap.addBreak fuel
      else if !isBlank c then return gap
      else if !gap.newLine then
        skip 1
        plainGap indent (gap.addBlank c) fuel
      else if c = '\t' && decide ((← column) < indent) then
        discard <| toLineEnd true
        if !endsLine (← remaining) then fail .tabIndent
        plainGap indent gap fuel
      else
        skip 1
        plainGap indent gap fuel

/-- The words of a plain text from here on, where `text` holds the characters so far, the last one
first, and `gap` what follows them. -/
def plainWords (indent : Int) (text : List Char) (gap : Gap) : (fuel : Nat) → Scan (List Char)
  | 0 => fail .unfinished
  | fuel + 1 => do
    let s ← get
    let flow ← inFlow
    if (s.fresh && startsWithMarker s.rest) || s.rest.head? = some '#' then return text
    match s.rest with
    | '-' :: c :: _ => if flow && isFlowSign c then fail .unexpected
    | _ => pure ()
    let word := plainWord flow s.rest
    let text := if word.isEmpty then text else word.reverse ++ gap.text.reverse ++ text
    if !word.isEmpty then skipSigns word.length
    if (← remaining).isEmpty || !startsBlank (← remaining) then return text
    let gap ← plainGap indent (if word.isEmpty then gap else .start false) (s.size + 1)
    if !flow && decide ((← column) < indent) then return text
    plainWords indent text gap fuel

/-- A plain text. -/
def plainText : Scan String := do
  unrollColumns
  let s ← get
  let indent := s.indent + 1
  if (← inFlow) && decide ((← column) < indent) then fail .badIndent
  let text ← plainWords indent [] (.start s.fresh) (s.size + 1)
  if (← get).fresh then allowKey true
  if text.isEmpty then fail .unexpected
  return String.ofList text.reverse

end Scan

end Playback.Yaml
