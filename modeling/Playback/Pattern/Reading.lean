import Playback.Pattern.Fault
import Playback.Pattern.Flags
import Playback.Text.Cut

/-!
# The state of reading a pattern

What the reader of patterns knows at a place of the text, and the steps that move it on. Each step
either fails with a fault or moves on in the text.
-/

namespace Playback.Pattern

open Playback.Text

/-- The state of the reader. -/
structure Reading where
  /-- The text that is still to be read. -/
  rest : List Char
  /-- The flags that act here. -/
  flags : Flags
  /-- The group names that have been used. -/
  names : List (List Char)
  /-- The number of groups that have been opened. -/
  groups : Nat

/-- A step of the reader: it fails with a fault or moves on in the text. -/
abbrev Step := StateT Reading (Except Fault)

/-- The text after leading blanks and comments. -/
def skipSpace : List Char → List Char
  | [] => []
  | c :: cs =>
    if isBlank c then skipSpace cs
    else if c = '#' then skipComment cs
    else c :: cs
where
  /-- The text after the rest of a comment and the blanks and comments behind it. -/
  skipComment : List Char → List Char
    | [] => []
    | c :: cs => if c = '\n' then skipSpace cs else skipComment cs

/-- The character behind blanks and the sign of one comment, if there is such a character, and else
the first one. -/
def glimpse (text : List Char) : Option Char :=
  let behind :=
    match text.dropWhile isBlank with
    | '#' :: rest => rest.dropWhile isBlank
    | rest => rest
  behind.head? <|> text.head?

/-- The next character, if the text has one. -/
def peek : Step (Option Char) :=
  return (← get).rest.head?

/-- The text that is still to be read. -/
def remaining : Step (List Char) :=
  return (← get).rest

/-- Continue with another rest of the text. -/
def resume (rest : List Char) : Step Unit :=
  modify fun r => { r with rest := rest }

/-- Skip blanks and comments if the flags say so. -/
def skip : Step Unit :=
  modify fun r => if r.flags.spaced then { r with rest := skipSpace r.rest } else r

/-- Move past one character. -/
def advance : Step Unit :=
  modify fun r => { r with rest := r.rest.tail }

/-- Move past one character and what the flags skip behind it. -/
def advanceSkip : Step Unit := do
  advance
  skip

/-- The next character; the fault if the text ends here. -/
def expectMore (fault : Fault) : Step Char := do
  match ← peek with
  | some c => return c
  | none => throw fault

/-- Move past a fixed text if it stands here. -/
def accept (text : String) : Step Bool := do
  match afterPrefix? text.toList (← remaining) with
  | some rest =>
    resume rest
    return true
  | none => return false

/-- The set under the flags, or what lies outside of it. Without the flag `u` nothing may lie
outside: that would be parts of characters. -/
def closeSet (negated : Bool) (a : CharSet) : Step CharSet := do
  let flags := (← get).flags
  if negated && !flags.wide then throw .notText
  return (flags.fold a).negatedIf negated

end Playback.Pattern
