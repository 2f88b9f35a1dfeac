import Playback.Pattern.Tree

/-!
# Pattern programs

A tree becomes a list of instructions. Threads that run the program side by side, in order of
preference, find the match that trying the tree's ways one after the other would find first.
-/

namespace Playback.Pattern

/-- One instruction of a program. Control passes to the next one unless it says otherwise. -/
inductive Instr where
  /-- Move past one character of a set. -/
  | eat (allowed : CharSet)
  /-- Go on only where a condition holds. -/
  | check (condition : Look)
  /-- Remember the place under a number. -/
  | mark (slot : Nat)
  /-- Continue at the first address, and if that fails at the second. -/
  | fork (first second : Nat)
  /-- Continue at an address. -/
  | jump (address : Nat)
  /-- Report a match. -/
  | done
  deriving DecidableEq, Repr

/-- The instructions of a piece of a program whose first address is the argument. -/
abbrev Code := Nat → List Instr

/-- A fork whose preferred address is `inner` if `greedy` and `outer` otherwise. -/
def Instr.branch (greedy : Bool) (inner outer : Nat) : Instr :=
  if greedy then .fork inner outer else .fork outer inner

namespace Code

/-- No instruction. -/
def nothing : Code :=
  fun _ => []

/-- One piece after the other. -/
def andThen (a b : Code) : Code := fun start =>
  let first := a start
  first ++ b (start + first.length)

/-- A piece several times in a row. -/
def times (a : Code) : Nat → Code
  | 0 => nothing
  | n + 1 => andThen a (times a n)

/-- A piece that may be skipped. -/
def option (greedy : Bool) (a : Code) : Code := fun start =>
  let body := a (start + 1)
  Instr.branch greedy (start + 1) (start + 1 + body.length) :: body

/-- A piece once, and then again as often as it matches. -/
def again (greedy : Bool) (a : Code) : Code := fun start =>
  let body := a start
  body ++ [Instr.branch greedy start (start + body.length + 1)]

/-- A piece up to several times, where each time depends on the one before. -/
def upTo (greedy : Bool) (a : Code) : Nat → Code
  | 0 => nothing
  | n + 1 => option greedy (andThen a (upTo greedy a n))

/-- One of two pieces. Both go on behind the second. -/
def choice (a b : Code) : Code := fun start =>
  let first := a (start + 1)
  let second := b (start + first.length + 2)
  let behind := start + first.length + second.length + 2
  .fork (start + 1) (start + first.length + 2) :: first ++ .jump behind :: second

end Code

/-- The instructions of a tree. A repetition without a bound that may be left out is an optional
repetition of at least one, so that a body that matches nothing ends it in order of preference. -/
def Tree.code : Tree → Code
  | .empty => .nothing
  | .chars allowed => fun _ => [.eat allowed]
  | .look condition => fun _ => [.check condition]
  | .both a b => .andThen a.code b.code
  | .either a b => .choice a.code b.code
  | .loop body 0 none greedy => .option greedy (.again greedy body.code)
  | .loop body (n + 1) none greedy => .andThen (.times body.code n) (.again greedy body.code)
  | .loop body least (some most) greedy =>
    .andThen (.times body.code least) (.upTo greedy body.code (most - least))
  | .group number body =>
    .andThen (fun _ => [.mark (2 * number)])
      (.andThen body.code fun _ => [.mark (2 * number + 1)])

/-- The program of a tree. -/
def Tree.program (t : Tree) : Array Instr :=
  (t.code 0 ++ [Instr.done]).toArray

end Playback.Pattern
