import Playback.Pattern.CharClass
import Playback.Pattern.GroupStart
import Playback.Pattern.Repetition

/-!
# Reading patterns

A pattern text is read from left to right into a tree. The flags that are set inside the text act
from there to the end of the group that holds them.
-/

namespace Playback.Pattern

open Playback.Text

/-- A tree with the depth to which the parts of its text lie in one another. -/
structure Part where
  /-- The tree. -/
  tree : Tree
  /-- The depth. -/
  depth : Nat

namespace Part

/-- The part of a tree that has no parts. -/
def leaf (tree : Tree) : Part :=
  ⟨tree, 0⟩

/-- What a number of parts within a part add to its depth, where several lie one deeper than one. -/
def depthOf (depths : List Nat) : Nat :=
  match depths with
  | [] => 0
  | [depth] => depth
  | depths => depths.foldl max 0 + 1

/-- Parts of which one matches, the earlier ones preferred. -/
def choice (parts : List Part) : Part :=
  ⟨.choice (parts.map (·.tree)), depthOf (parts.map (·.depth))⟩

end Part

/-- What a branch consists of: parts, and flag settings, which cannot be repeated. -/
inductive Item where
  /-- A part. -/
  | part (part : Part)
  /-- A flag setting. -/
  | flags

/-- The depth of an item. -/
def Item.depth : Item → Nat
  | .part p => p.depth
  | .flags => 0

/-- The tree of an item that has one. -/
def Item.tree? : Item → Option Tree
  | .part p => some p.tree
  | .flags => none

/-- A branch, given its items, the last one first. -/
def branchOf (items : List Item) : Part :=
  ⟨.sequence (items.reverse.filterMap (·.tree?)), Part.depthOf (items.map (·.depth))⟩

/-- Repeat the last item of a branch. -/
def repeatLast (items : List Item) (least : Nat) (most : Option Nat) (isLazy : Bool) :
    Step (List Item) := do
  match items with
  | .part body :: rest =>
    if most.any (· < least) then throw .countReversed
    let greedy := isLazy == (← get).flags.swapGreed
    return .part ⟨body.tree.repeated least most greedy, body.depth + 1⟩ :: rest
  | _ => throw .nothingToRepeat

/-- The tree of one character under the flags that act here. -/
def charTree (c : Char) : Step Tree := do
  return .chars ((← get).flags.fold (.single c))

/-- The tree of an atom under the flags that act here. -/
def atomTree : Atom → Step Tree
  | .char c => charTree c
  | .chars allowed => return .chars allowed
  | .look condition => return .look condition

/-- The tree of a character outside classes that begins no construct of several characters. -/
def plainTree (c : Char) : Step Tree := do
  let flags := (← get).flags
  match c with
  | '.' =>
    if !flags.wide then throw .notText
    return .chars (if flags.dotAll then .any else flags.inLine)
  | '^' => return .look (if flags.multiLine then .lineStart flags.returns else .textStart)
  | '$' => return .look (if flags.multiLine then .lineEnd flags.returns else .textEnd)
  | c => charTree c

/-- The branches of a group or of the whole pattern, up to the parenthesis behind them or the end of
the text. `branches` are the complete ones and `items` the parts of the current one, each with the
last first. -/
def readBranches (branches : List Part) (items : List Item) : (fuel : Nat) → Step Part
  | 0 => throw .unfinished
  | fuel + 1 => do
    skip
    match ← peek with
    | none | some ')' => return .choice (branchOf items :: branches).reverse
    | some '|' =>
      advance
      readBranches (branchOf items :: branches) [] fuel
    | some '(' =>
      let flags := (← get).flags
      let close (wrap : Tree → Tree) : Step Part := do
        let body ← readBranches [] [] fuel
        if (← peek) != some ')' then throw .groupUnclosed
        modify fun r => { r with rest := r.rest.tail, flags := flags }
        readBranches branches (.part ⟨wrap body.tree, body.depth + 1⟩ :: items) fuel
      match ← readGroupStart with
      | .setting => readBranches branches (.flags :: items) fuel
      | .plain => close id
      | .numbered number => close (.group number)
    | some '[' =>
      let charClass ← readClass
      readBranches branches (.part ⟨.chars charClass.set, charClass.depth⟩ :: items) fuel
    | some '{' =>
      if items.isEmpty then throw .nothingToRepeat
      let (least, most) ← readCounted
      let isLazy ← readLazy
      readBranches branches (← repeatLast items least most isLazy) fuel
    | some '\\' =>
      let tree ← atomTree (← readEscape)
      readBranches branches (.part (.leaf tree) :: items) fuel
    | some c =>
      advance
      match c with
      | '?' => readBranches branches (← repeatLast items 0 (some 1) (← readLazy)) fuel
      | '*' => readBranches branches (← repeatLast items 0 none (← readLazy)) fuel
      | '+' => readBranches branches (← repeatLast items 1 none (← readLazy)) fuel
      | _ => readBranches branches (.part (.leaf (← plainTree c)) :: items) fuel

/-- The greatest depth that a pattern may have. -/
def maxDepth : Nat := 250

/-- A whole pattern. -/
def readWhole : Step Tree := do
  let whole ← readBranches [] [] (2 * (← remaining).length + 2)
  if (← peek).isSome then throw .groupUnopened
  if maxDepth < whole.depth then throw .tooDeep
  if Tree.maxWeight < whole.tree.weight then throw .tooLarge
  return whole.tree

/-- The tree of a pattern text, or why the text is no pattern. -/
def Tree.read (text : List Char) : Except Fault Tree :=
  (readWhole.run ⟨text, .start, [], 0⟩).map (·.1)

end Playback.Pattern
