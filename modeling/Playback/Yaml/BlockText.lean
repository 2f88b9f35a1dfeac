import Playback.Text.Digits
import Playback.Yaml.Indentation

/-!
# Block texts in YAML

A text that takes up whole lines below its sign, with the line ends kept or folded.
-/

namespace Playback.Yaml

open Text

/-- What happens to the line ends behind a block text. -/
inductive Chomping where
  /-- One of them remains. -/
  | clip
  /-- None remains. -/
  | strip
  /-- All remain. -/
  | keep
  deriving DecidableEq

/-- The sign for the last line ends, if there is one, and what follows. -/
def readChomping : List Char → Option Chomping × List Char
  | '+' :: rest => (some .keep, rest)
  | '-' :: rest => (some .strip, rest)
  | rest => (none, rest)

/-- The digit for the indentation, if there is one, and what follows. -/
def readIndent : List Char → Option Nat × List Char
  | c :: rest => if isDigit c then (some (c.toNat - 48), rest) else (none, c :: rest)
  | [] => (none, [])

/-- The lines of a block text as they have been read. -/
structure BlockLines where
  /-- The characters so far, the last one first. -/
  text : List Char
  /-- Whether the last line has a line end. -/
  ended : Bool
  /-- The number of empty lines behind it. -/
  breaks : Nat
  /-- Whether the last line starts with a blank. -/
  blank : Bool

namespace BlockLines

/-- The characters before a further line, which starts with a blank or not. -/
def gap (lines : BlockLines) (folded blank : Bool) : List Char :=
  let breaks := List.replicate lines.breaks '\n'
  if !lines.ended then breaks
  else if folded && !lines.blank && !blank then
    if lines.breaks = 0 then [' '] else breaks
  else '\n' :: breaks

/-- The text with the line ends that remain behind it; `extra` tells that blanks as those before the
lines stand at the end of the document, which count as one more line. -/
def close (lines : BlockLines) (chomping : Chomping) (extra : Bool) : List Char :=
  let last := (if lines.ended then 1 else 0) + (if extra then 1 else 0)
  let tail :=
    match chomping with
    | .strip => 0
    | .clip => last
    | .keep => last + lines.breaks
  List.replicate tail '\n' ++ lines.text

end BlockLines

namespace Scan

/-- The signs behind the first one, in either order: what happens to the last line ends, and by how
many columns the lines are indented, when that is said. -/
def blockHeader : Scan (Chomping × Option Nat) := do
  let signs ← remaining
  let (first, rest) := readChomping signs
  let (indent, rest) := readIndent rest
  let (second, rest) := if first.isNone && indent.isSome then readChomping rest else (none, rest)
  if indent = some 0 then fail .badBlockHeader
  skipSigns (signs.length - rest.length)
  discard <| toLineEnd true
  if !endsLine (← remaining) then fail .badBlockHeader
  return ((first <|> second).getD .clip, indent)

/-- Move past empty lines and the blanks that indent the next one, and count the empty lines. -/
def blockGap (indent breaks : Nat) : (fuel : Nat) → Scan Nat
  | 0 => fail .unfinished
  | fuel + 1 => do
    let s ← get
    let blanks := ((s.rest.take (indent - s.mark.column)).takeWhile (· == ' ')).length
    skip blanks
    if (← peek).any isBreak then
      skipBreak
      blockGap indent (breaks + 1) fuel
    else return breaks

/-- Move past empty lines and the blanks before the next one. The result holds the greatest number
of blanks on one of these lines, and the number of empty lines. -/
def firstGap (longest breaks : Nat) : (fuel : Nat) → Scan (Nat × Nat)
  | 0 => fail .unfinished
  | fuel + 1 => do
    discard <| takeWhile (· == ' ')
    let longest := max longest (← get).mark.column
    if (← peek).any isBreak then
      skipBreak
      firstGap longest (breaks + 1) fuel
    else return (longest, breaks)

/-- The lines of a block text from here on, which are indented by `indent`. -/
def blockLines (folded : Bool) (indent : Nat) (lines : BlockLines) : (fuel : Nat) → Scan BlockLines
  | 0 => fail .unfinished
  | fuel + 1 => do
    let s ← get
    if s.mark.column ≠ indent || s.rest.isEmpty || (indent = 0 && startsWithSign '.' s.rest) then
      return lines
    let blank := s.rest.head?.any isBlank
    let line ← takeWhile (!isBreak ·)
    let text := line.reverse ++ (lines.gap folded blank).reverse ++ lines.text
    if (← remaining).isEmpty then return ⟨text, false, 0, blank⟩
    skipBreak
    let breaks ← blockGap indent 0 (s.size + 1)
    blockLines folded indent ⟨text, true, breaks, blank⟩ fuel

/-- A block text. -/
def blockText (folded : Bool) : Scan String := do
  let line := (← get).mark.line
  skipSigns 1
  unrollColumns
  let (chomping, given) ← blockHeader
  if !(← remaining).isEmpty then skipBreak
  if (← peek) = some '\t' then fail .tabIndent
  let s ← get
  let (indent, breaks) ←
    match given with
    | some n => do
      let indent := (max s.indent 0).toNat + n
      pure (indent, ← blockGap indent 0 (s.size + 1))
    | none => do
      let (longest, breaks) ← firstGap 0 0 (s.size + 1)
      pure (max longest (s.indent + 1).toNat, breaks)
  if (← remaining).isEmpty then
    let ends :=
      match chomping with
      | .strip => 0
      | .clip => 1
      | .keep => max breaks 1
    return if (← get).mark.line = line then "" else String.ofList (List.replicate ends '\n')
  if decide ((← column) < (indent : Int)) && decide (s.indent < (← column)) then fail .badIndent
  let lines ← blockLines folded indent ⟨[], false, breaks, false⟩ (s.size + 1)
  let extra := (← remaining).isEmpty && decide ((max indent 1 : Int) ≤ (← column))
  return String.ofList (lines.close chomping extra).reverse

end Scan

end Playback.Yaml
