import Playback.Proofs.Chapter.Isolation
import Playback.Proofs.Visit.Effect

/-!
# Running sequences

A replay runs its sequences one after the other, and drops the local variables behind each. Between
two commands the replay is at a moment.
-/

namespace Playback

namespace Visit

/-- The visit at the end of a sequence, where the local variables are dropped. -/
def endSequence (v : Visit) : Visit :=
  { v with store := v.store.clearLocal }

/-- To run a sequence is to run its commands and to end it. -/
theorem run_eq (v : Visit) (commands : Sequence) :
    v.run commands = ((v.executeAll commands).1.endSequence, (v.executeAll commands).2) := rfl

end Visit

/-! ## Moments -/

/-- A moment of a replay between two commands, or before the first or behind the last of a
sequence. -/
structure Chapter.Moment (c : Chapter) where
  /-- The sequences that have run. -/
  ran : List (Nat × Sequence)
  /-- The place of the sequence that is running. -/
  place : Nat
  /-- The commands of it that have been executed. -/
  done : Sequence
  /-- The commands of it that have not. -/
  ahead : Sequence
  /-- The sequences that have not started. -/
  later : List (Nat × Sequence)
  /-- These are the sequences that run in a replay of the chapter. -/
  compiled_eq : c.compiled = ran ++ (place, done ++ ahead) :: later

namespace Chapter.Moment

variable {c : Chapter}

/-- The visit at a moment of a replay. -/
def visit (m : c.Moment) (request : Request) (response : Response) (s : Store) : Visit :=
  (((c.begin request response s).runAll m.ran).1.executeAll m.done).1

end Chapter.Moment

end Playback
