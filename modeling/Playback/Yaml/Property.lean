import Playback.Text.Digits
import Playback.Yaml.Scanner

/-!
# Anchors, tags and directives

Names for parts of a document and for their kinds, and the instructions before a document.
-/

namespace Playback.Yaml

open Text

/-- The characters of the names of anchors. -/
def isAnchorChar (c : Char) : Bool :=
  !isBlank c && !isBreak c && !isFlowSign c && c != '\ufeff'

/-- The characters of tags between angle brackets and of what handles stand for. -/
def isUriChar (c : Char) : Bool :=
  isNameChar c || "#;/?:@&=+$,.!~*'()[]%".toList.contains c

/-- The characters of tags behind their handles. -/
def isTagChar (c : Char) : Bool :=
  isUriChar c && !isFlowSign c && c != '!'

/-- The byte that an escape in a tag writes. -/
def escapedByte? : List Char → Option Nat
  | '%' :: a :: b :: _ => do return (← hexDigit? a) * 16 + (← hexDigit? b)
  | _ => none

/-- The number of bytes of a character that starts with a byte. -/
def byteCount? (byte : Nat) : Option Nat :=
  if byte < 0x80 then some 1
  else if 0xC0 ≤ byte && byte < 0xE0 then some 2
  else if 0xE0 ≤ byte && byte < 0xF0 then some 3
  else if 0xF0 ≤ byte && byte < 0xF8 then some 4
  else none

namespace Scan

/-- The further bytes of an escaped character, behind those whose number is `code`. -/
def escapedBytes (code : Nat) : (count : Nat) → Scan Char
  | 0 =>
    match charOf? code with
    | some c => return c
    | none => fail .badTag
  | count + 1 => do
    match escapedByte? (← remaining) with
    | some byte =>
      if byte < 0x80 || 0xC0 ≤ byte then fail .badTag
      skipSigns 3
      escapedBytes (code * 256 + byte) count
    | none => fail .badTag

/-- A character of a tag that is written as its bytes. The number of the character is that of its
bytes in a row. -/
def escapedChar : Scan Char := do
  let byte? := escapedByte? (← remaining)
  match byte?, byte?.bind byteCount? with
  | some byte, some count =>
    skipSigns 3
    escapedBytes byte (count - 1)
  | _, _ => fail .badTag

/-- The characters of a tag for which `p` holds. -/
def tagChars (p : Char → Bool) : (fuel : Nat) → Scan (List Char)
  | 0 => fail .unfinished
  | fuel + 1 => do
    match ← peek with
    | some c =>
      if !p c then return []
      else if c = '%' then
        let e ← escapedChar
        return e :: (← tagChars p fuel)
      else
        skipSigns 1
        return c :: (← tagChars p fuel)
    | none => return []

/-- The characters of a tag for which `p` holds, as many as there are. -/
def tagText (p : Char → Bool) : Scan (List Char) := do
  tagChars p ((← get).size + 1)

/-- A handle: exclamation marks around a name, or a single one before it. -/
def tagHandle (inDirective : Bool) : Scan (List Char) := do
  if (← peek) != some '!' then fail .badTag
  skipSigns 1
  let name ← takeWhile isNameChar
  if (← peek) = some '!' then
    skipSigns 1
    return '!' :: name ++ ['!']
  else
    if inDirective && !name.isEmpty then fail .badTag
    return '!' :: name

/-- A tag: one between angle brackets, or a handle and a suffix. -/
def tag : Scan Token := do
  let found ←
    match ← remaining with
    | _ :: '<' :: _ => do
      skipSigns 2
      let text ← tagText isUriChar
      if (← peek) != some '>' then fail .badTag
      skipSigns 1
      pure (Token.tag "" (String.ofList text))
    | _ => do
      let handle ← tagHandle false
      if 2 ≤ handle.length && handle.getLast? = some '!' then
        let suffix ← tagText isTagChar
        if suffix.isEmpty then fail .badTag
        pure (Token.tag (String.ofList handle) (String.ofList suffix))
      else
        let suffix := handle.tail ++ (← tagText isTagChar)
        pure (if suffix.isEmpty then .tag "" "!" else .tag "!" (String.ofList suffix))
  let rest ← remaining
  if startsBlank rest || ((← inFlow) && rest.head?.any isFlowSign) then return found
  else fail .badTag

/-- The name of an anchor or alias, behind its sign. -/
def anchorName : Scan String := do
  skipSigns 1
  let name ← takeWhile isAnchorChar
  if name.isEmpty then fail .badAnchor
  return String.ofList name

/-- A number of a version. -/
def versionNumber : Scan Unit := do
  let digits ← takeWhile isDigit
  if digits.isEmpty || 9 < digits.length then fail .badDirective

/-- A directive, up to the end of its line. One that is not known is taken for a handle without a
name. -/
def directive : Scan Token := do
  skipSigns 1
  let name ← takeWhile isNameChar
  if name.isEmpty || !startsBlank (← remaining) then fail .badDirective
  let found ←
    match String.ofList name with
    | "YAML" => do
      discard <| takeWhile isBlank
      versionNumber
      if (← peek) != some '.' then fail .badDirective
      skip 1
      versionNumber
      pure Token.version
    | "TAG" => do
      discard <| takeWhile isBlank
      let handle ← tagHandle true
      discard <| takeWhile isBlank
      let start ← remaining
      if start.head? != some '!' && !start.head?.any isTagChar then fail .badTag
      let sign := if start.head? = some '!' then ['!'] else []
      skip sign.length
      let meaning := sign ++ (← tagText isUriChar)
      if !startsBlank (← remaining) then fail .badDirective
      pure (.tagHandle (String.ofList handle) (String.ofList meaning))
    | _ => do
      skipLine
      pure (.tagHandle "" "")
  discard <| toLineEnd true
  if !endsLine (← remaining) then fail .badDirective
  skipBreak
  return found

end Scan

end Playback.Yaml
