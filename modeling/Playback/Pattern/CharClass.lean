import Playback.Pattern.Escape

/-!
# Character classes in patterns

A class in brackets stands for a set of characters. Its elements are characters, ranges, escapes,
named classes and further classes, and two classes can be combined by an operation.
-/

namespace Playback.Pattern

open Playback.Text Playback.Unicode

/-- An operation between two parts of a class. -/
inductive ClassOp where
  /-- Characters of both parts. -/
  | meet
  /-- Characters of the left part outside the right one. -/
  | minus
  /-- Characters of exactly one part. -/
  | differ

/-- A part of a class with the depth to which its parts lie in one another. -/
structure ClassPart where
  /-- The characters. -/
  set : CharSet
  /-- The depth. -/
  depth : Nat

/-- The elements of a class that stand side by side. -/
structure Elements where
  /-- The characters of all of them. -/
  set : CharSet
  /-- Their number. -/
  count : Nat
  /-- The greatest of their depths. -/
  depth : Nat

namespace Elements

/-- No elements. -/
def none : Elements :=
  ⟨.empty, 0, 0⟩

/-- One more element. -/
def add (elements : Elements) (part : ClassPart) : Elements :=
  ⟨.union elements.set part.set, elements.count + 1, max elements.depth part.depth⟩

/-- The part that the elements make up. Several of them lie one deeper than one. -/
def part (elements : Elements) : ClassPart :=
  ⟨elements.set, if elements.count ≤ 1 then elements.depth else elements.depth + 1⟩

end Elements

/-- An operation with its left side. -/
structure LeftSide where
  /-- The operation. -/
  op : ClassOp
  /-- What it applies to. -/
  part : ClassPart

/-- The part that an operation makes of both its sides. -/
def ClassOp.apply (op : ClassOp) (flags : Flags) (left right : ClassPart) : ClassPart :=
  let a := flags.fold left.set
  let b := flags.fold right.set
  let set :=
    match op with
    | .meet => .meet a b
    | .minus => .minus a b
    | .differ => .differ a b
  ⟨set, max left.depth right.depth + 1⟩

/-- The part that the elements make up together with the operation before them, if there is one. -/
def Elements.close (flags : Flags) (left : Option LeftSide) (elements : Elements) : ClassPart :=
  match left with
  | .none => elements.part
  | .some left => left.op.apply flags left.part elements.part

/-- A named class such as `[:alpha:]`, if one stands at the start: whether it is negated, its
characters, and the text behind it. -/
def asciiClassAt? (text : List Char) : Option (Bool × CharSet × List Char) := do
  let inner ← afterPrefix? ['[', ':'] text
  let (negated, inner) :=
    match inner with
    | '^' :: cs => (true, cs)
    | cs => (false, cs)
  let name := inner.takeWhile (· != ':')
  let rest ← afterPrefix? [':', ']'] (inner.dropWhile (· != ':'))
  let set ← CharSet.asciiClass? (String.ofList name)
  return (negated, set, rest)

/-- One element of a class: an escape or a character. -/
def readClassAtom : Step Atom := do
  let c ← expectMore .classUnclosed
  if c = '\\' then readEscape
  else
    advance
    return .char c

/-- A range of characters. Without the flag `u` both are characters of ASCII. -/
def rangeSet (low high : Char) : Step CharSet := do
  if 0x7F < max low.toNat high.toNat && !(← get).flags.wide then throw .asciiOnly
  if low ≤ high then return .span low high else throw .rangeInvalid

/-- One element of a class or a range of characters. -/
def readClassRange : Step CharSet := do
  let first ← readClassAtom
  skip
  let c ← expectMore .classUnclosed
  let spaced := (← get).flags.spaced
  let behind := ((← remaining).tail)
  let next := if spaced then glimpse behind else behind.head?
  if c != '-' || next = some ']' || next = some '-' then
    match first with
    | .char c => rangeSet c c
    | .chars allowed => return allowed
    | .look _ => throw .classEscapeInvalid
  else
    advanceSkip
    match first, ← readClassAtom with
    | .char low, .char high => rangeSet low high
    | _, _ => throw .rangeInvalid

/-- Leading hyphens of a class, which stand for themselves. -/
def readHyphens (elements : Elements) : (fuel : Nat) → Step Elements
  | 0 => throw .unfinished
  | fuel + 1 => do
    let c ← expectMore .classUnclosed
    if c = '-' then
      advanceSkip
      readHyphens (elements.add ⟨.single '-', 0⟩) fuel
    else return elements

/-- The beginning of a class, from its bracket on: whether it is negated, and the hyphens or the
closing bracket that stand for themselves at its start. -/
def readClassStart : Step (Bool × Elements) := do
  advanceSkip
  let c ← expectMore .classUnclosed
  let negated := c = '^'
  if negated then advanceSkip
  let elements ← readHyphens .none ((← remaining).length + 1)
  let c ← expectMore .classUnclosed
  if elements.count = 0 && c = ']' then
    advanceSkip
    discard <| expectMore .classUnclosed
    return (negated, elements.add ⟨.single ']', 0⟩)
  return (negated, elements)

/-- The rest of a class behind its beginning, with the operation and the elements so far. -/
def readClassBody (negated : Bool) (left : Option LeftSide) (elements : Elements) :
    (fuel : Nat) → Step ClassPart
  | 0 => throw .unfinished
  | fuel + 1 => do
    skip
    let c ← expectMore .classUnclosed
    let part := elements.close (← get).flags left
    let operation (op : ClassOp) : Step ClassPart :=
      readClassBody negated (some ⟨op, part⟩) .none fuel
    match c with
    | '[' =>
      match asciiClassAt? (← remaining) with
      | some (opposite, named, rest) =>
        resume rest
        readClassBody negated left (elements.add ⟨← closeSet opposite named, 0⟩) fuel
      | none =>
        let (innerNegated, start) ← readClassStart
        let inner ← readClassBody innerNegated none start fuel
        readClassBody negated left (elements.add inner) fuel
    | ']' =>
      advance
      return ⟨← closeSet negated part.set, part.depth + 1⟩
    | _ =>
      if ← accept "&&" then operation .meet
      else if ← accept "--" then operation .minus
      else if ← accept "~~" then operation .differ
      else
        let range ← readClassRange
        readClassBody negated left (elements.add ⟨range, 0⟩) fuel

/-- A class, from its bracket on. -/
def readClass : Step ClassPart := do
  let (negated, start) ← readClassStart
  readClassBody negated none start ((← remaining).length + 1)

end Playback.Pattern
