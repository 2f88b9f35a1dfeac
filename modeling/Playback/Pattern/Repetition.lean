import Playback.Pattern.Reading
import Playback.Text.Digits

/-!
# Repetition counts in patterns

A count in braces gives the least and the greatest number of repetitions; a question mark behind a
repetition turns its preference around.
-/

namespace Playback.Pattern

open Playback.Text Playback.Unicode

/-- Digits, each of which may have blanks behind it that the flags skip. -/
def readDigits : (fuel : Nat) → Step (List Char)
  | 0 => throw .unfinished
  | fuel + 1 => do
    match ← peek with
    | some c =>
      if isDigit c then
        advanceSkip
        return c :: (← readDigits fuel)
      else return []
    | none => return []

/-- A number of a repetition count; blanks around it are skipped. None if there are no digits. -/
def readCount : Step (Option Nat) := do
  resume ((← remaining).dropWhile isBlank)
  let digits ← readDigits ((← remaining).length + 1)
  resume ((← remaining).dropWhile isBlank)
  skip
  if digits.isEmpty then return none
  let n := digitsValue digits
  if n < Nat.pow 2 32 then return some n else throw .numberTooLarge

/-- Whether a question mark stands here, which is moved past. -/
def readLazy : Step Bool := do
  if (← peek) = some '?' then
    advance
    return true
  return false

/-- A repetition count in braces, from its opening brace on: least and greatest count. -/
def readCounted : Step (Nat × Option Nat) := do
  advanceSkip
  discard <| expectMore .countUnclosed
  let least ← readCount
  let c ← expectMore .countUnclosed
  let bounds ←
    if c = ',' then do
      advanceSkip
      let c ← expectMore .countUnclosed
      match least with
      | none => throw .countEmpty
      | some least =>
        if c = '}' then pure (least, none)
        else
          match ← readCount with
          | none => throw .countEmpty
          | some most => pure (least, some most)
    else
      match least with
      | none => throw .countEmpty
      | some least => pure (least, some least)
  if (← peek) != some '}' then throw .countUnclosed
  advanceSkip
  return bounds

end Playback.Pattern
