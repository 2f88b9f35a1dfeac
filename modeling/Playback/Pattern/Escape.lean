import Playback.Pattern.Reading
import Playback.Pattern.Tree
import Playback.Text.Digits

/-!
# Escapes in patterns

What a backslash and the characters behind it stand for: one character, a set of characters, or a
condition on the place.
-/

namespace Playback.Pattern

open Playback.Text Playback.Unicode

/-- What an escape or a single character stands for. -/
inductive Atom where
  /-- One character. -/
  | char (c : Char)
  /-- A set of characters. -/
  | chars (allowed : CharSet)
  /-- A condition on the place. -/
  | look (condition : Look)

/-- The hexadecimal digits up to a closing brace. -/
def readHexBraced (value : Nat) (seen : Bool) : (fuel : Nat) → Step Char
  | 0 => throw .unfinished
  | fuel + 1 => do
    let c ← expectMore .escapeUnclosed
    advanceSkip
    if c = '}' then
      match seen, charOf? value with
      | true, some c => return c
      | _, _ => throw .hexInvalid
    else
      match hexDigit? c with
      | some d => readHexBraced (value * 16 + d) true fuel
      | none => throw .hexInvalid

/-- A fixed number of hexadecimal digits. -/
def readHexDigits (value : Nat) : (count : Nat) → Step Char
  | 0 =>
    match charOf? value with
    | some c => return c
    | none => throw .hexInvalid
  | count + 1 => do
    let c ← expectMore .escapeUnclosed
    match hexDigit? c with
    | some d =>
      advanceSkip
      readHexDigits (value * 16 + d) count
    | none => throw .hexInvalid

/-- A hexadecimal escape behind its letter, which says how many digits it has without braces. Two
digits stand for a byte where the flag `u` is not set, which has to be a character of ASCII. -/
def readHex (digits : Nat) : Step Char := do
  let c ← expectMore .escapeUnclosed
  if c = '{' then
    advanceSkip
    readHexBraced 0 false ((← remaining).length + 1)
  else
    let c ← readHexDigits 0 digits
    if digits = 2 && 0x7F < c.toNat && !(← get).flags.wide then throw .notText
    return c

/-- The text up to a closing brace. -/
def readBraced (fuel : Nat) : Step (List Char) :=
  match fuel with
  | 0 => throw .unfinished
  | fuel + 1 => do
    let c ← expectMore .escapeUnclosed
    if c = '}' then
      advance
      return []
    else
      advanceSkip
      return c :: (← readBraced fuel)

/-- The set that a property text stands for, and whether the text itself negates it. -/
def propertySet? (text : List Char) : Option (CharSet × Bool) :=
  let valued (name value : List Char) (negated : Bool) :=
    (CharSet.ofPropertyValue? (CharSet.propertyForm name) (CharSet.propertyForm value)).map
      (·, negated)
  match cutAt? ['!', '='] text with
  | some (name, value) => valued name value true
  | none =>
    match cutAt? [':'] text <|> cutAt? ['='] text with
    | some (name, value) => valued name value false
    | none => (CharSet.ofProperty? (CharSet.propertyForm text)).map (·, false)

/-- A property escape behind its letter. -/
def readProperty (negated : Bool) : Step CharSet := do
  let c ← expectMore .escapeUnclosed
  let text ←
    if c = '{' then do
      advanceSkip
      readBraced ((← remaining).length + 1)
    else do
      if c = '\\' then throw .propertyUnknown
      advanceSkip
      pure [c]
  if !(← get).flags.wide then throw .asciiOnly
  match propertySet? text with
  | some (set, opposite) => closeSet (negated != opposite) set
  | none => throw .propertyUnknown

/-- The set of a class escape: `wide` under the flag `u`, else `ascii`. It is closed under changes
of case as it is. -/
def readShorthand (negated : Bool) (wide ascii : CharSet) : Step CharSet := do
  if (← get).flags.wide then return wide.negatedIf negated
  else if negated then throw .notText
  else return ascii

/-- The letters and hyphens of a word boundary's kind, up to its closing brace. -/
def readBoundaryKind : (fuel : Nat) → Step (List Char)
  | 0 => throw .unfinished
  | fuel + 1 => do
    let c ← expectMore .wordBoundaryInvalid
    if c = '}' then
      advance
      return []
    else if c.isAlpha || c = '-' then
      advanceSkip
      return c :: (← readBoundaryKind fuel)
    else throw .wordBoundaryInvalid

/-- A word boundary behind its letter: plain, or of a kind in braces. Braces that begin with
anything but a letter or a hyphen are left to be read as a repetition count. -/
def readWordBoundary : Step WordLook := do
  let start ← remaining
  if start.head? != some '{' then return .edge
  advanceSkip
  let c ← expectMore .wordBoundaryInvalid
  if c.isAlpha || c = '-' then
    match String.ofList (← readBoundaryKind (start.length + 1)) with
    | "start" => return .start
    | "end" => return .stop
    | "start-half" => return .startHalf
    | "end-half" => return .stopHalf
    | _ => throw .wordBoundaryInvalid
  else
    resume start
    return .edge

/-- A condition on word characters, which the flag `u` tells apart. -/
def wordAtom (look : WordLook) : Step Atom := do
  return .look (.word look (← get).flags.wide)

/-- Whether a character stands for itself behind a backslash. -/
def escapesItself (c : Char) : Bool :=
  c.toNat < 128 && !c.isAlphanum && c != '<' && c != '>'

/-- An escape, from its backslash on. -/
def readEscape : Step Atom := do
  advance
  let c ← expectMore .escapeUnclosed
  if isDigit c then throw .backReference
  match c with
  | 'x' => advanceSkip; return .char (← readHex 2)
  | 'u' => advanceSkip; return .char (← readHex 4)
  | 'U' => advanceSkip; return .char (← readHex 8)
  | 'p' => advanceSkip; return .chars (← readProperty false)
  | 'P' => advanceSkip; return .chars (← readProperty true)
  | _ =>
    advance
    match c with
    | 'd' | 'D' => return .chars (← readShorthand (c = 'D') .digit .asciiDigit)
    | 's' | 'S' => return .chars (← readShorthand (c = 'S') .blank .asciiBlank)
    | 'w' | 'W' => return .chars (← readShorthand (c = 'W') .word .asciiWord)
    | 'a' => return .char '\x07'
    | 'f' => return .char '\x0c'
    | 't' => return .char '\t'
    | 'n' => return .char '\n'
    | 'r' => return .char '\r'
    | 'v' => return .char '\x0b'
    | 'A' => return .look .textStart
    | 'z' => return .look .textEnd
    | 'b' => wordAtom (← readWordBoundary)
    | 'B' => wordAtom .noEdge
    | '<' => wordAtom .start
    | '>' => wordAtom .stop
    | _ => if escapesItself c then return .char c else throw .escapeUnknown

end Playback.Pattern
