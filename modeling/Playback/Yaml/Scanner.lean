import Playback.Yaml.Fault
import Playback.Yaml.Token

/-!
# Scanners

A scanner is a place in a text, with the tokens that have been found so far and what is needed to
find the next ones. Lines end at line feeds, carriage returns, or both in this order.
-/

namespace Playback.Yaml

/-- A place in a text. -/
structure Mark where
  /-- The number of characters before it. -/
  index : Nat
  /-- The line, counted from zero. -/
  line : Nat
  /-- The column, counted from zero. -/
  column : Nat

/-- A part that becomes a key when a colon follows it. -/
structure PendingKey where
  /-- Whether it still can be a key. -/
  possible : Bool
  /-- Whether it has to be one. -/
  required : Bool
  /-- The number of tokens before it. -/
  place : Nat
  /-- Where it starts. -/
  mark : Mark

/-- An indentation that is in force. -/
structure Indent where
  /-- The indentation around it. -/
  outer : Int
  /-- Whether it is that of a list or map, whose end is a token. -/
  isBlock : Bool

/-- Whether a map with one field is open in the brackets of a level. -/
inductive PairMap where
  /-- None is open. -/
  | closed
  /-- One is open at a level. -/
  | openAt (level : Nat)
  deriving DecidableEq

/-- A place in a text and what is needed to go on from it. -/
structure Scanner where
  /-- What follows. -/
  rest : List Char
  /-- The place. -/
  mark : Mark
  /-- The length of the whole text, which bounds every loop. -/
  size : Nat
  /-- Whether there are only blanks before the place on its line. -/
  fresh : Bool
  /-- The tokens found so far. -/
  tokens : Array PlacedToken
  /-- The number of tokens that have been taken. -/
  taken : Nat
  /-- Whether a key may start here. -/
  keyAllowed : Bool
  /-- For every open bracket or brace and outside of them the part that can become a key, the
  innermost one first. -/
  keys : List PendingKey
  /-- The indentation; none is in force at `-1`. -/
  indent : Int
  /-- The indentations in force, the innermost one first. -/
  indents : List Indent
  /-- The number of open brackets and braces. -/
  level : Nat
  /-- The index behind a part that a colon may follow without a blank behind it. -/
  adjacentAt : Nat
  /-- Whether fields belong to a map that has been opened. -/
  mapOpen : Bool
  /-- For every open bracket the map with one field in it, the innermost one first. -/
  pairMaps : List PairMap

/-- The key of a place where nothing can be one. -/
def PendingKey.impossible : PendingKey :=
  ⟨false, false, 0, ⟨0, 0, 0⟩⟩

/-- The scanner at the start of a text. A text ends before its first character zero. -/
def Scanner.start (text : List Char) : Scanner :=
  let text := text.takeWhile (· != '\x00')
  ⟨text, ⟨0, 0, 0⟩, text.length, true, #[], 0, true, [.impossible], -1, [], 0, 0, false, []⟩

/-- Whether a character ends a line. -/
def isBreak (c : Char) : Bool :=
  c == '\n' || c == '\r'

/-- Blanks inside a line. -/
def isBlank (c : Char) : Bool :=
  c == ' ' || c == '\t'

/-- The characters that open, close and separate the lists and maps within lines. -/
def isFlowSign (c : Char) : Bool :=
  c == ',' || c == '[' || c == ']' || c == '{' || c == '}'

/-- The characters of the names of handles and directives. -/
def isNameChar (c : Char) : Bool :=
  c.isAlphanum || c == '_' || c == '-'

/-- Whether a text starts with a blank or a line end, or is empty. -/
def startsBlank (cs : List Char) : Bool :=
  cs.head?.all fun c => isBlank c || isBreak c

/-- Whether a text starts with a line end, or is empty. -/
def endsLine (cs : List Char) : Bool :=
  cs.head?.all isBreak

/-- Whether a text starts with three dashes or three dots that stand alone. -/
def startsWithSign (sign : Char) (cs : List Char) : Bool :=
  match cs with
  | a :: b :: c :: rest => a == sign && b == sign && c == sign && startsBlank rest
  | _ => false

/-- Whether a text starts with the sign of the start or of the end of a document. -/
def startsWithMarker (cs : List Char) : Bool :=
  startsWithSign '-' cs || startsWithSign '.' cs

/-- A step of a scanner: it fails with a fault or moves on. -/
abbrev Scan := StateT Scanner (Except Fault)

namespace Scan

/-- The fault of a cause at this place. -/
def fail (cause : Cause) : Scan α := do
  throw ⟨(← get).mark.line + 1, cause⟩

/-- What follows. -/
def remaining : Scan (List Char) :=
  return (← get).rest

/-- The next character, if there is one. -/
def peek : Scan (Option Char) :=
  return (← get).rest.head?

/-- The column of this place. -/
def column : Scan Int :=
  return ((← get).mark.column : Int)

/-- Whether this place lies inside brackets or braces. -/
def inFlow : Scan Bool :=
  return 0 < (← get).level

/-- Move past a number of characters on the same line. -/
def skip (n : Nat) : Scan Unit :=
  modify fun s =>
    let mark := s.mark
    { s with
      rest := s.rest.drop n
      mark := ⟨mark.index + n, mark.line, mark.column + n⟩ }

/-- Move past a number of characters on the same line that are no blanks. -/
def skipSigns (n : Nat) : Scan Unit := do
  skip n
  modify fun s => { s with fresh := false }

/-- The scanner at the start of the next line, behind a line end of some characters. -/
def nextLine (s : Scanner) (n : Nat) : Scanner :=
  { s with
    rest := s.rest.drop n
    mark := ⟨s.mark.index + n, s.mark.line + 1, 0⟩
    fresh := true }

/-- Move past a line end, if the text does not end here. -/
def skipBreak : Scan Unit :=
  modify fun s =>
    match s.rest with
    | '\r' :: '\n' :: _ => nextLine s 2
    | _ :: _ => nextLine s 1
    | [] => s

/-- Move past the characters up to one for which `p` does not hold, which lie on the same line. -/
def takeWhile (p : Char → Bool) : Scan (List Char) := do
  let cs := (← remaining).takeWhile p
  skip cs.length
  return cs

/-- Move past the rest of the line. -/
def skipLine : Scan Unit :=
  discard <| takeWhile (!isBreak ·)

/-- Move past blanks and a comment on the same line, where tabs count as blanks if `tabs`, and
return the blanks. A comment needs a blank before it. -/
def toLineEnd (tabs : Bool) : Scan (List Char) := do
  let blanks ← takeWhile fun c => c == ' ' || (tabs && c == '\t')
  if (← peek) = some '#' then
    if blanks.isEmpty then fail .commentWithoutBlank
    skipLine
  return blanks

/-- Say whether a key may start here. -/
def allowKey (allowed : Bool) : Scan Unit :=
  modify fun s => { s with keyAllowed := allowed }

/-- Move past blanks, line ends and comments to the next token. Outside of brackets and braces a key
may start on a new line. Tabs must not indent the parts of a list or map. -/
def toToken : (fuel : Nat) → Scan Unit
  | 0 => fail .unfinished
  | fuel + 1 => do
    let s ← get
    match s.rest with
    | [] => return ()
    | c :: _ =>
      if c = '\t' && s.fresh && !s.indents.isEmpty && decide ((s.mark.column : Int) < s.indent) then
        discard <| toLineEnd true
        if !endsLine (← remaining) then fail .tabIndent
        toToken fuel
      else if isBlank c then
        skip 1
        toToken fuel
      else if isBreak c then
        skipBreak
        if s.level = 0 then allowKey true
        toToken fuel
      else if c = '#' then
        skipLine
        toToken fuel

/-- Add a token that starts in a column. -/
def push (token : Token) (column : Nat) : Scan Unit :=
  modify fun s => { s with tokens := s.tokens.push ⟨token, column⟩ }

/-- Add a token before those that follow a number of tokens. -/
def insertAt (place : Nat) (token : Token) (column : Nat) : Scan Unit :=
  modify fun s => { s with tokens := s.tokens.insertIdxIfInBounds place ⟨token, column⟩ }

end Scan

end Playback.Yaml
