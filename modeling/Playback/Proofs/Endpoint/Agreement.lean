import Playback.Proofs.Chapter.Compiling
import Playback.Proofs.Endpoint.Printed

/-!
# Ways of judging a fixture

A fixture is judged in three ways: by its messages about sequences that will not run, by a replay,
and by a check of all its lines one by one. The first two go through the sequences and stop in each
at its first faulty line; the check looks at every line and knows of no sequences. All three come to
the same conclusion.
-/

namespace Playback

open Text

/-! ## What is told about a rejected sequence -/

/-- The message about a sequence that does not run. -/
def Rejection.message (r : Rejection) : String :=
  "sequences[" ++ natText r.sequence ++ "]: " ++ r.fault.message

/-- There is a message for each sequence that a replay rejects, in order. -/
theorem Fixture.lint_eq (f : Fixture) :
    f.lint = f.replay.report.rejected.map Rejection.message := by
  change f.lint = f.toChapter.rejected.map Rejection.message
  rw [lint, Chapter.rejected, List.map_filterMap]
  refine congrArg (List.filterMap · f.sequences.zipIdx) (funext fun entry => ?_)
  obtain ⟨lines, place⟩ := entry
  dsimp only
  cases Sequence.compile lines <;> rfl

/-! ## Exit statuses -/

/-- A line is valid when it compiles. -/
theorem LineVerdict.isValid_of (line : String) :
    (LineVerdict.of line).isValid = (Command.compile line).isOk := by
  rw [isValid, LineVerdict.of]
  cases Command.compile line <;> rfl

/-- A check of lines, of which there are some, ends well when they all compile. -/
theorem Endpoint.status_run_check {lines : List String} (h : lines ≠ []) :
    (Endpoint.check lines).run.status =
      if ∀ line ∈ lines, (Command.compile line).isOk = true then 0 else 1 := by
  have hverdict : (Endpoint.check lines).verdict? = some (.check (lines.map .of)) :=
    if_neg (by simpa using h)
  have haccepted : (Verdict.check (lines.map .of)).accepted = true ↔
      ∀ line ∈ lines, (Command.compile line).isOk = true := by
    simp only [Verdict.accepted, List.all_map, List.all_eq_true, Function.comp_apply,
      LineVerdict.isValid_of]
  simp only [run, hverdict, Verdict.exitCode, haccepted]

/-- A replay ends well when it rejects nothing. -/
theorem Endpoint.status_run_replay (f : Fixture) :
    (Endpoint.replay f).run.status = if f.replay.report.rejected = [] then 0 else 1 := by
  simp only [run, verdict?, Verdict.exitCode, Verdict.accepted, List.isEmpty_iff]

/-! ## Agreement -/

/-- What the three ways of judging a fixture have in common. -/
structure Fixture.JudgementsAgree (f : Fixture) : Prop where
  /-- There is one message for each sequence that a replay rejects, with its place and its fault, in
  the order of the replay's report. -/
  messages : f.lint = f.replay.report.rejected.map Rejection.message
  /-- The replay prints a text that is read as an object. It names the places of the rejected
  sequences, and the place and text of the faulty line of each, in the order of the report. -/
  printed : f.InRange → f.Indexable → ∃ text value,
    (Endpoint.replay f).run.output = text ++ "\n" ∧ Json.read? text = some value ∧
      value.rejectedLines? = some (f.replay.report.rejected.map Rejection.line)
  /-- The replay ends with 0 when there are no messages, and else with 1. -/
  replayStatus : (Endpoint.replay f).run.status = if f.lint = [] then 0 else 1
  /-- So does the check, unless there are no lines at all. -/
  checkStatus : f.sequences.flatten ≠ [] →
    (Endpoint.ofFixture f).run.status = if f.lint = [] then 0 else 1

/-- A fixture is judged alike by its messages, by a replay and by a check of its lines. -/
theorem Fixture.judgementsAgree (f : Fixture) : f.JudgementsAgree := by
  have hmessages : f.lint = [] ↔ f.replay.report.rejected = [] := by
    rw [lint_eq, List.map_eq_nil_iff]
  have hlines : f.replay.report.rejected = [] ↔
      ∀ line ∈ f.sequences.flatten, (Command.compile line).isOk = true :=
    f.toChapter.rejected_eq_nil_iff
  constructor
  · exact f.lint_eq
  · intro hrange hplaces
    obtain ⟨text, value, houtput, hread, hstate⟩ := Endpoint.printsState hrange hplaces
    exact ⟨text, value, houtput, hread, hstate.rejected⟩
  · simp only [Endpoint.status_run_replay, hmessages]
  · intro hsome
    simp only [Endpoint.ofFixture, Endpoint.status_run_check hsome, hmessages, hlines]

/-- A fixture with an empty sequence, one that compiles, and two that do not. -/
def Fixture.faulty : Fixture :=
  { Fixture.empty with
    sequences := [[], ["?use->n", "use->\x7b"], ["~!var->x"], ["request:body->\x7b0\x7d", "var"]] }

/-- All three ways of judging this fixture tell of its faults, and its printed replay of the faulty
lines. -/
theorem Fixture.judgementsAgree_faulty :
    Fixture.faulty.InRange ∧ Fixture.faulty.Indexable ∧ Fixture.faulty.sequences.flatten ≠ [] ∧
      Fixture.faulty.lint.length = 2 ∧ (Endpoint.ofFixture Fixture.faulty).run.status = 1 ∧
      (Endpoint.replay Fixture.faulty).run.status = 1 ∧
      ∃ text value, (Endpoint.replay Fixture.faulty).run.output = text ++ "\n" ∧
        Json.read? text = some value ∧
        value.rejectedLines? = some [(1, 1, "use->\x7b"), (3, 0, "request:body->\x7b0\x7d")] := by
  have hrange : Fixture.faulty.InRange := by
    refine ⟨by decide, rfl, ?_⟩
    rintro name n ⟨⟩
  have hplaces : Fixture.faulty.Indexable := ⟨by decide, by decide⟩
  have hsome : Fixture.faulty.sequences.flatten ≠ [] := by decide
  have hlength : Fixture.faulty.lint.length = 2 := by decide +kernel
  have hmessages : Fixture.faulty.lint ≠ [] := by
    rw [← List.length_pos_iff, hlength]
    decide
  have hlines : Fixture.faulty.replay.report.rejected.map Rejection.line =
      [(1, 1, "use->\x7b"), (3, 0, "request:body->\x7b0\x7d")] := by
    decide +kernel
  have hagree := Fixture.faulty.judgementsAgree
  refine ⟨hrange, hplaces, hsome, hlength, ?_, ?_, ?_⟩
  · rw [hagree.checkStatus hsome, if_neg hmessages]
  · rw [hagree.replayStatus, if_neg hmessages]
  · rw [← hlines]
    exact hagree.printed hrange hplaces

end Playback
