import Playback.Pattern.Program

/-!
# Searching

Threads run a program over a text, one character at a time. At every place they are kept in order
of preference, and each address holds at most one of them, so a search takes time in proportion to
the program and the text.
-/

namespace Playback.Pattern

/-- The remembered places of a thread, the latest first: slot numbers with places. -/
abbrev Marks := List (Nat × Nat)

/-- A point of the program that has been reached. -/
structure Thread where
  /-- The address of the next instruction. -/
  address : Nat
  /-- The places remembered on the way. -/
  marks : Marks

/-- The threads at one place. -/
structure Front where
  /-- For each address whether a thread has been there. -/
  seen : Array Bool
  /-- The threads that wait for a character or report a match, the least preferred first. -/
  waiting : List Thread

/-- No thread yet, for a program of a given size. -/
def Front.start (size : Nat) : Front :=
  ⟨Array.replicate size false, []⟩

/-- Let the threads of a stack run until they wait, at a place between two characters. A thread ends
at an address where another has been. Every step takes a thread from the stack, and only a new
address adds threads, so twice the program's size plus the stack's bounds the steps. -/
def Front.settle (program : Array Instr) (before after : Option Char) (place : Nat) :
    (fuel : Nat) → List Thread → Front → Front
  | 0, _, front => front
  | _ + 1, [], front => front
  | fuel + 1, t :: stack, front =>
    if front.seen.getD t.address true then settle program before after place fuel stack front
    else
      let seen := front.seen.setIfInBounds t.address true
      let front : Front := ⟨seen, front.waiting⟩
      match program[t.address]? with
      | none => settle program before after place fuel stack front
      | some (.eat _) | some .done =>
        settle program before after place fuel stack ⟨seen, t :: front.waiting⟩
      | some (.check look) =>
        let stack :=
          if look.holds before after then ⟨t.address + 1, t.marks⟩ :: stack else stack
        settle program before after place fuel stack front
      | some (.mark slot) =>
        let moved : Thread := ⟨t.address + 1, (slot, place) :: t.marks⟩
        settle program before after place fuel (moved :: stack) front
      | some (.jump address) =>
        settle program before after place fuel (⟨address, t.marks⟩ :: stack) front
      | some (.fork first second) =>
        settle program before after place fuel
          (⟨first, t.marks⟩ :: ⟨second, t.marks⟩ :: stack) front

/-- The threads that reach the next place by eating a character, in order of preference, and the
match that one of them reports, if any: it ends the threads behind it. -/
def eatNext (program : Array Instr) (c? : Option Char) (place : Nat) :
    List Thread → List Thread × Option (Marks × Nat)
  | [] => ([], none)
  | t :: ts =>
    match program[t.address]? with
    | some (.eat set) =>
      let (moved, found) := eatNext program c? place ts
      if c?.any set.contains then (⟨t.address + 1, t.marks⟩ :: moved, found) else (moved, found)
    | some .done => ([], some (t.marks, place))
    | _ => eatNext program c? place ts

/-- Run a program over a text. `before` is the character before the text, `place` the number of
characters passed, `stack` the threads that arrive here and `found` the best match so far. While
there is none, a new thread starts at every place, behind all others. -/
def runProgram (program : Array Instr) (before : Option Char) (place : Nat)
    (stack : List Thread) (found : Option (Marks × Nat)) : List Char → Option (Marks × Nat)
  | [] =>
    let stack := if found.isNone then stack ++ [⟨0, [(0, place)]⟩] else stack
    let front := Front.settle program before none place (2 * program.size + stack.length + 1) stack
      (Front.start program.size)
    (eatNext program none place front.waiting.reverse).2 <|> found
  | c :: rest =>
    let stack := if found.isNone then stack ++ [⟨0, [(0, place)]⟩] else stack
    if stack.isEmpty then found
    else
      let front := Front.settle program before (some c) place
        (2 * program.size + stack.length + 1) stack (Front.start program.size)
      let (moved, better) := eatNext program (some c) place front.waiting.reverse
      runProgram program (some c) (place + 1) moved (better <|> found) rest

/-- A match in a text: how many characters it leaves out, how many it takes, and what each group
matched. -/
structure Hit where
  /-- The number of characters before the match. -/
  skipped : Nat
  /-- The number of characters of the match. -/
  taken : Nat
  /-- The texts of the groups, from the first group on; `none` for one that took no part. -/
  groups : List (Option String)

/-- The latest place remembered under a number. -/
def Marks.place? (marks : Marks) (slot : Nat) : Option Nat :=
  (marks.find? fun (s, _) => s == slot).map (·.2)

/-- The characters between two places of a text. -/
def between (text : List Char) (start stop : Nat) : List Char :=
  (text.drop start).take (stop - start)

/-- The text of a numbered group. -/
def Marks.group? (marks : Marks) (text : List Char) (number : Nat) : Option String := do
  let start ← marks.place? (2 * number)
  let stop ← marks.place? (2 * number + 1)
  return String.ofList (between text start stop)

/-- The first match of a program in a text that follows the character `before`. -/
def searchProgram (program : Array Instr) (groupCount : Nat) (before : Option Char)
    (text : List Char) : Option Hit :=
  (runProgram program before 0 [] none text).map fun (marks, stop) =>
    let start := (marks.place? 0).getD 0
    ⟨start, stop - start, (List.range groupCount).map fun i => marks.group? text (i + 1)⟩

end Playback.Pattern
