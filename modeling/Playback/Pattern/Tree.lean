import Playback.Pattern.CharSet

/-!
# Pattern trees

The structure of a pattern after its text has been read. Flags have been resolved: a tree says for
itself which characters it accepts and which of two ways it prefers.
-/

namespace Playback.Pattern

open Playback.Unicode

/-- A condition on the word characters on both sides of a place. -/
inductive WordLook where
  /-- A word character on exactly one side. -/
  | edge
  /-- A word character on both sides or on none. -/
  | noEdge
  /-- A word character on the right side only. -/
  | start
  /-- A word character on the left side only. -/
  | stop
  /-- No word character on the left side. -/
  | startHalf
  /-- No word character on the right side. -/
  | stopHalf
  deriving DecidableEq, Repr

/-- Whether the condition holds, given whether there are word characters on the left and on the
right. -/
def WordLook.holds (look : WordLook) (left right : Bool) : Bool :=
  match look with
  | .edge => left != right
  | .noEdge => left == right
  | .start => !left && right
  | .stop => left && !right
  | .startHalf => !left
  | .stopHalf => !right

/-- A condition on the place between two characters. -/
inductive Look where
  /-- The start of the text. -/
  | textStart
  /-- The end of the text. -/
  | textEnd
  /-- The start of the text or of a line. If `returns`, carriage returns end lines too, but no place
  lies between one and the line feed behind it. -/
  | lineStart (returns : Bool)
  /-- The end of the text or of a line, where carriage returns count as for the start. -/
  | lineEnd (returns : Bool)
  /-- A condition on word characters: those of all alphabets if `wide`, else of ASCII. -/
  | word (look : WordLook) (wide : Bool)
  deriving DecidableEq, Repr

/-- Whether the condition holds between two characters; `none` stands for an end of the text. -/
def Look.holds (look : Look) (before after : Option Char) : Bool :=
  match look with
  | .textStart => before.isNone
  | .textEnd => after.isNone
  | .lineStart returns =>
    before.all (· == '\n') || (returns && before == some '\r' && after != some '\n')
  | .lineEnd returns =>
    if returns then
      after.all (· == '\r') || (after == some '\n' && before != some '\r')
    else after.all (· == '\n')
  | .word look wide =>
    let isWord := if wide then isWordChar else isAsciiWordChar
    look.holds (before.any isWord) (after.any isWord)

/-- The structure of a pattern. Alternatives and repetitions are ordered: the way named first, or
by `greedy` the longer one, is preferred. -/
inductive Tree where
  /-- Matches between characters. -/
  | empty
  /-- Matches one character of a set. -/
  | chars (allowed : CharSet)
  /-- Matches between characters where a condition holds. -/
  | look (condition : Look)
  /-- Matches `a` and then `b`. -/
  | both (a b : Tree)
  /-- Matches `a`, or else `b`. -/
  | either (a b : Tree)
  /-- Matches `body` at least `least` times and at most `most` times, if there is a bound. -/
  | loop (body : Tree) (least : Nat) (most : Option Nat) (greedy : Bool)
  /-- Matches `body` and remembers what it matched as the group with a number. -/
  | group (number : Nat) (body : Tree)
  deriving DecidableEq, Repr

namespace Tree

/-- Whether a tree matches nothing but the empty text. -/
def takesNothing : Tree → Bool
  | .empty | .look _ => true
  | .chars _ => false
  | .both a b | .either a b => a.takesNothing && b.takesNothing
  | .loop body _ _ _ => body.takesNothing
  | .group _ body => body.takesNothing

/-- A repetition. One that may not happen at all is empty, and its groups are no groups of the
pattern. To match the empty text more than once is to match it once. -/
def repeated (body : Tree) (least : Nat) (most : Option Nat) (greedy : Bool) : Tree :=
  if least = 0 ∧ most = some 0 then .empty
  else if body.takesNothing then .loop body (min least 1) (some 1) greedy
  else .loop body least most greedy

/-- Trees that match one after the other. -/
def sequence : List Tree → Tree
  | [] => .empty
  | [t] => t
  | t :: ts => .both t (sequence ts)

/-- Trees of which one matches, the earlier ones preferred. -/
def choice : List Tree → Tree
  | [] => .empty
  | [t] => t
  | t :: ts => .either t (choice ts)

/-- The greatest group number of a tree, zero if it has no groups. -/
def lastGroup : Tree → Nat
  | .empty | .chars _ | .look _ => 0
  | .both a b | .either a b => max a.lastGroup b.lastGroup
  | .loop body _ _ _ => body.lastGroup
  | .group number body => max number body.lastGroup

/-- How large a tree is when its repetitions are written out. This approximates the number of states
that a pattern compiles to: a state for a character's byte and for each branch, and two for a group.
-/
def weight : Tree → Nat
  | .empty | .look _ => 1
  | .chars allowed => allowed.weight
  | .both a b => a.weight + b.weight
  | .either a b => a.weight + b.weight + 1
  | .loop body least none _ => max least 1 * body.weight + 1
  | .loop body least (some most) _ => most * body.weight + (most - least)
  | .group _ body => body.weight + 2

/-- The largest weight that a pattern may have. The compiled form of a pattern is limited to 10 MiB,
and this is how many states of 32 bytes fit into that. The limit is approximated, since the states
differ in size: near to it a pattern may be taken here that is too large, or the other way. -/
def maxWeight : Nat := 327680

end Tree

end Playback.Pattern
