import Playback.Endpoint.Verdict
import Playback.Fixture.Basic

/-!
# Endpoints

The two things that can be done: check command lines, or replay a fixture.
-/

namespace Playback

/-- What a run leaves behind. -/
structure Ending where
  /-- The exit status. -/
  status : Nat
  /-- The output. -/
  output : String
  /-- The messages about faults. -/
  messages : String
  deriving DecidableEq, Repr

/-- The ending of a run that could not do its work. -/
def Ending.failure (message : String) : Ending :=
  ⟨2, "", "p4tape: " ++ message ++ "\n"⟩

/-- What to do. -/
inductive Endpoint where
  /-- Check lines. -/
  | check (lines : List String)
  /-- Replay a fixture. -/
  | replay (fixture : Fixture)

namespace Endpoint

/-- The endpoint that checks every line of every sequence of a fixture. -/
def ofFixture (f : Fixture) : Endpoint :=
  .check f.sequences.flatten

/-- The verdict, unless there is nothing to check. -/
def verdict? : Endpoint → Option Verdict
  | .check lines => if lines.isEmpty then none else some (.check (lines.map .of))
  | .replay fixture => some (.replay fixture.replay)

/-- Do the work and print the verdict. -/
def run (e : Endpoint) : Ending :=
  match e.verdict? with
  | some verdict => ⟨verdict.exitCode, verdict.printed, ""⟩
  | none => .failure "no commands to check"

end Endpoint

end Playback
