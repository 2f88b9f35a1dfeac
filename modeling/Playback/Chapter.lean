import Playback.Command.Build
import Playback.Command.Printer
import Playback.Visit

/-!
# Chapters

A chapter has a name, a use count and sequences of command lines. A sequence runs only if all of
its lines compile; the report of a replay tells which sequences ran and why the others did not.
-/

namespace Playback

open Text

/-- Why a sequence does not run: its first line that does not compile. -/
structure SequenceFault where
  /-- The place of the line in its sequence. -/
  index : Nat
  /-- The line. -/
  line : String
  /-- Why it does not compile. -/
  cause : CommandFault
  deriving DecidableEq, Repr

/-- The wording of a sequence fault. -/
def SequenceFault.message (fault : SequenceFault) : String :=
  "line " ++ natText fault.index ++ " ('" ++ fault.line ++ "'): " ++ fault.cause.message

/-- The commands of a sequence. -/
abbrev Sequence := List Command

namespace Sequence

/-- The commands of lines, of which the first has this place in its sequence. -/
def compileFrom (index : Nat) : List String → Except SequenceFault Sequence
  | [] => .ok []
  | line :: lines =>
    match Command.compile line with
    | .error cause => .error ⟨index, line, cause⟩
    | .ok command => (command :: ·) <$> compileFrom (index + 1) lines

/-- The commands of the lines of a sequence, or the fault of the first line that does not
compile. -/
def compile (lines : List String) : Except SequenceFault Sequence :=
  compileFrom 0 lines

/-- The lines of a sequence. -/
def lines (commands : Sequence) : List String :=
  commands.map (·.text)

end Sequence

/-- A sequence that does not run. -/
structure Rejection where
  /-- The place of the sequence in its chapter. -/
  sequence : Nat
  /-- Why it does not run. -/
  fault : SequenceFault
  deriving DecidableEq, Repr

/-- What happened in a replay. -/
structure Report where
  /-- The outcomes of the commands of each sequence that ran, with the place of the sequence. -/
  executed : List (Nat × List Outcome)
  /-- The sequences that did not run. -/
  rejected : List Rejection
  deriving DecidableEq, Repr

/-- A recorded chapter. -/
structure Chapter where
  /-- The name. -/
  name : String
  /-- How often the chapter has been replayed, if no command says otherwise. -/
  uses : Int
  /-- The lines of the sequences. -/
  sequences : List (List String)
  deriving DecidableEq, Repr

/-- Run sequences in order, each with its place. -/
def Visit.runAll (v : Visit) : List (Nat × Sequence) → Visit × List (Nat × List Outcome)
  | [] => (v, [])
  | (place, commands) :: rest =>
    let (v, outcomes) := v.run commands
    let (v, executed) := v.runAll rest
    (v, (place, outcomes) :: executed)

/-- The state after a replay. -/
structure Replay where
  /-- The chapter with its new use count. -/
  chapter : Chapter
  /-- The response. -/
  response : Response
  /-- The variables and counts. -/
  store : Store
  /-- What happened. -/
  report : Report

namespace Chapter

/-- The sequences that compile, with their places. -/
def compiled (c : Chapter) : List (Nat × Sequence) :=
  c.sequences.zipIdx.filterMap fun (lines, place) =>
    match Sequence.compile lines with
    | .ok commands => some (place, commands)
    | .error _ => none

/-- The sequences that do not compile. -/
def rejected (c : Chapter) : List Rejection :=
  c.sequences.zipIdx.filterMap fun (lines, place) =>
    match Sequence.compile lines with
    | .ok _ => none
    | .error fault => some ⟨place, fault⟩

/-- The visit that starts a replay: the use is counted, under the name of the chapter too. -/
def begin (c : Chapter) (request : Request) (response : Response) (s : Store) : Visit :=
  ⟨request, response, s.setUses c.name (nextCount c.uses), nextCount c.uses⟩

/-- Replay a chapter: count the use, run the sequences that compile, and keep the use count that
they leave, under the name of the chapter too. -/
def replay (c : Chapter) (request : Request) (response : Response) (s : Store) : Replay :=
  let (v, executed) := (c.begin request response s).runAll c.compiled
  ⟨{ c with uses := v.uses }, v.response, v.store.setUses c.name v.uses,
    ⟨executed, c.rejected⟩⟩

end Chapter

end Playback
