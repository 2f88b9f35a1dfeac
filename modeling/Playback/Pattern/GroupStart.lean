import Playback.Pattern.Reading

/-!
# The beginning of groups in patterns

What stands behind an opening parenthesis: a number or a name under which the group is remembered,
or flags.
-/

namespace Playback.Pattern

open Playback.Text Playback.Unicode

/-- The flags of a flag group, up to the colon or the parenthesis behind them. `seen` holds the
letters and the hyphen that have been read, the last one first. -/
def readFlags (flags : Flags) (value : Bool) (seen : List Char) : (fuel : Nat) →
    Step (Flags × List Char)
  | 0 => throw .unfinished
  | fuel + 1 => do
    let c ← expectMore .flagsUnclosed
    if c = ':' || c = ')' then
      if seen.head? = some '-' then throw .flagMisplaced
      return (flags, seen)
    if seen.contains c then throw .flagMisplaced
    if c = '-' then
      advance
      readFlags flags false (c :: seen) fuel
    else
      match flags.set? c value with
      | some flags =>
        advance
        readFlags flags value (c :: seen) fuel
      | none => throw .flagUnknown

/-- Whether a character may stand in a group name, at its start or behind it. -/
def isNameChar (first : Bool) (c : Char) : Bool :=
  if first then c = '_' || isAlphabetic c
  else c = '_' || c = '.' || c = '[' || c = ']' || isAlphanumeric c

/-- A group name, up to the angle bracket behind it. -/
def readName : Step Unit := do
  let text ← remaining
  let name := text.takeWhile (· != '>')
  let behind := text.dropWhile (· != '>')
  let valid :=
    match name with
    | [] => false
    | c :: cs => isNameChar true c && cs.all (isNameChar false)
  if behind.isEmpty || !valid then throw .groupNameInvalid
  let r ← get
  if r.names.contains name then throw .groupNameRepeated
  set { r with rest := behind.tail, names := name :: r.names }

/-- What stands behind an opening parenthesis. -/
inductive GroupStart where
  /-- A group that is remembered under a number. -/
  | numbered (number : Nat)
  /-- A group that is not remembered. -/
  | plain
  /-- A flag setting, which was complete. -/
  | setting

/-- Give the next group its number. -/
def nextNumber : Step Nat := do
  let r ← get
  set { r with groups := r.groups + 1 }
  return r.groups + 1

/-- The beginning of a group, from its parenthesis on. Flags that it sets act from here on. -/
def readGroupStart : Step GroupStart := do
  advanceSkip
  let text ← remaining
  let looksAround := ["?=", "?!", "?<=", "?<!"].any fun sign =>
    (afterPrefix? sign.toList text).isSome
  if looksAround then throw .lookAround
  let named ← (do if ← accept "?P<" then return true else accept "?<")
  if named then
    let number ← nextNumber
    readName
    return .numbered number
  else if ← accept "?" then
    let (flags, seen) ← readFlags (← get).flags true [] (text.length + 1)
    let c ← peek
    advance
    modify fun r => { r with flags := flags }
    if c = some ')' then
      if seen.isEmpty then throw .nothingToRepeat
      return .setting
    else return .plain
  else return .numbered (← nextNumber)

end Playback.Pattern
