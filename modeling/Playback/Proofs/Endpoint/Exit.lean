import Mathlib.Data.List.Forall2
import Playback.CommandLine
import Playback.Proofs.Command.Judging
import Playback.Proofs.Command.RoundTrip
import Playback.Proofs.Endpoint.Agreement
import Playback.Proofs.Endpoint.Routing
import Playback.Proofs.Json.ReadBack

/-!
# How runs end

A run that has nothing to do its work on ends with 2 and prints nothing. Any other check prints a
verdict on each line, any other replay prints the state that it ends in, and the run ends with 0 or
1. The printed verdicts are read back here, so what is told about them is what a reader of the
output finds.
-/

namespace Playback

open Text

/-! ## Printed verdicts -/

/-- A printed text is a verdict on a line: an object on one line with the command line, whether it
is valid, and either its canonical form, which is the line itself, or what is wrong with it. -/
structure IsVerdictOn (line printed : String) : Prop where
  /-- The verdict stands on one line. -/
  oneLine : '\n' ∉ printed.toList
  /-- It is read as an object. -/
  read : ∃ fields, Json.read? printed = some (.object fields) ∧
    Json.field? "command" fields = some (.text line) ∧
    Json.field? "valid" fields = some (.bool (Command.compile line).isOk) ∧
    (∀ c, Command.compile line = .ok c →
      Json.field? "canonical" fields = some (.text line) ∧ Json.field? "error" fields = none) ∧
    ∀ fault, Command.compile line = .error fault →
      Json.field? "error" fields = some (.text fault.message) ∧
        Json.field? "canonical" fields = none

/-- The command of a line that compiles is written as that line. -/
theorem Command.text_of_compile {line : String} {c : Command}
    (h : Command.compile line = .ok c) : c.text = line :=
  (read_eq_ok_iff.1 (compile_eq_ok_iff.1 h).1).1

/-- The fields of a line's verdict. -/
def LineVerdict.fields (v : LineVerdict) : List (String × Json) :=
  [("command", .text v.line), ("valid", .bool v.isValid)] ++
    match v.canonical with
    | .ok line => [("canonical", .text line)]
    | .error fault => [("error", .text fault.message)]

theorem LineVerdict.json_eq (v : LineVerdict) : v.json = .object v.fields := rfl

/-- A verdict is printed by texts and truth values, which are all read back. -/
theorem LineVerdict.fits_json (v : LineVerdict) : Json.Fits 128 v.json := by
  rw [json_eq]
  refine .object ?_
  obtain ⟨line, canonical⟩ := v
  cases canonical <;> simp [fields]

/-- The printed verdict on a line is a verdict on that line. -/
theorem LineVerdict.isVerdictOn (line : String) :
    IsVerdictOn line (LineVerdict.of line).json.compact := by
  have hfits := (LineVerdict.of line).fits_json
  rw [json_eq] at hfits ⊢
  refine ⟨Json.not_mem_compact hfits, _, Json.read?_compact hfits, ?_⟩
  cases h : Command.compile line with
  | ok c =>
    have htext := Command.text_of_compile h
    have hfields : (LineVerdict.of line).fields =
        [("command", .text line), ("valid", .bool true), ("canonical", .text line)] := by
      simp only [fields, LineVerdict.of, isValid, h, Except.map, htext]
      rfl
    rw [hfields]
    refine ⟨rfl, rfl, fun _ _ => ⟨rfl, rfl⟩, ?_⟩
    rintro _ ⟨⟩
  | error fault =>
    have hfields : (LineVerdict.of line).fields =
        [("command", .text line), ("valid", .bool false), ("error", .text fault.message)] := by
      simp only [fields, LineVerdict.of, isValid, h, Except.map]
      rfl
    rw [hfields]
    refine ⟨rfl, rfl, ?_, ?_⟩
    · rintro _ ⟨⟩
    · rintro _ ⟨⟩
      exact ⟨rfl, rfl⟩

/-- The verdicts on lines are printed one on each line. -/
theorem Verdict.printed_check (lines : List LineVerdict) :
    (Verdict.check lines).printed =
      String.join ((lines.map fun v => v.json.compact).map (· ++ "\n")) := by
  rw [printed]
  induction lines with
  | nil => rfl
  | cons v lines ih => rw [List.foldr_cons, ih, List.map_cons, List.map_cons, String.join_cons]

/-! ## Endings -/

/-- How the check of some lines ends: a verdict on each of them is printed, in order, and the status
is 0 if they are all valid and else 1. -/
structure Ending.ChecksLines (lines : List String) (e : Ending) : Prop where
  /-- The output is the verdicts, each with a line end. -/
  output : ∃ printed, List.Forall₂ IsVerdictOn lines printed ∧
    e.output = String.join (printed.map (· ++ "\n"))
  /-- The status tells whether all lines compile. -/
  status : e.status = if ∀ line ∈ lines, (Command.compile line).isOk = true then 0 else 1

/-- How a check ends. -/
structure Ending.OfCheck (folder : Folder) (input : ByteArray) (arguments : CheckArguments)
    (e : Ending) : Prop where
  /-- The run ends with 2 and prints nothing exactly when no lines can be routed, or when the lines
  that are routed are none, as those of a fixture may be. -/
  failed : e.status = 2 ∧ e.output = "" ↔
    arguments.Unrouted folder input ∨ arguments.Routed folder input []
  /-- Otherwise it tells about all lines that are routed. -/
  checked : ¬ (arguments.Unrouted folder input ∨ arguments.Routed folder input []) →
    ∃ lines, arguments.Routed folder input lines ∧ e.ChecksLines lines

/-- How a replay ends. -/
structure Ending.OfReplay (folder : Folder) (name : Option String) (e : Ending) : Prop where
  /-- The run ends with 2 and prints nothing exactly when there is no fixture to load. -/
  failed : e.status = 2 ∧ e.output = "" ↔ Fixture.Unloadable folder name
  /-- Otherwise it prints a text, which is read as the state after the replay of the fixture, and
  the status is 0 if no sequence is rejected and else 1. -/
  replayed : ¬ Fixture.Unloadable folder name → ∃ f : Fixture, f.Loads folder name ∧
    (f.Indexable → ∃ text value, e.output = text ++ "\n" ∧ Json.read? text = some value ∧
      value.IsStateAfter f.replay) ∧
    e.status = if f.replay.report.rejected = [] then 0 else 1

/-- The numbers of a fixture that is loaded are in their ranges. -/
theorem Fixture.Loads.inRange {folder : Folder} {name : Option String} {f : Fixture}
    (h : f.Loads folder name) : f.InRange := by
  obtain ⟨⟨_, _, -, -, hread⟩, -⟩ := h
  exact inRange_of_read hread

/-- The check of some lines ends with the verdicts on them. -/
theorem Endpoint.checksLines_run {lines : List String} (h : lines ≠ []) :
    (Endpoint.check lines).run.ChecksLines lines := by
  have hverdict : (Endpoint.check lines).verdict? = some (.check (lines.map .of)) :=
    if_neg (by simpa using h)
  constructor
  · refine ⟨(lines.map LineVerdict.of).map fun v => v.json.compact, ?_, ?_⟩
    · rw [List.map_map, List.forall₂_map_right_iff, List.forall₂_same]
      exact fun line _ => LineVerdict.isVerdictOn line
    · simp only [run, hverdict, Verdict.printed_check]
  · exact status_run_check h

/-- The status of the check of some lines is not 2. -/
theorem Ending.ChecksLines.status_ne {lines : List String} {e : Ending} (h : e.ChecksLines lines) :
    e.status ≠ 2 := by
  rw [h.status]
  split <;> decide

/-- A run fails exactly when a condition holds if it fails then, and does not end with 2 else. -/
theorem Ending.failed_iff {e : Ending} {P : Prop} (hfailed : P → e.status = 2 ∧ e.output = "")
    (hother : ¬ P → e.status ≠ 2) : e.status = 2 ∧ e.output = "" ↔ P := by
  refine ⟨fun h => ?_, hfailed⟩
  by_contra hnot
  exact hother hnot h.1

/-- A check ends as it should. -/
theorem Ending.ofCheck_run (folder : Folder) (input : ByteArray) (arguments : CheckArguments) :
    ((Invocation.check arguments).run folder input).OfCheck folder input arguments := by
  have hfailed : arguments.Unrouted folder input ∨ arguments.Routed folder input [] →
      ((Invocation.check arguments).run folder input).status = 2 ∧
        ((Invocation.check arguments).run folder input).output = "" := by
    rintro (hnone | hempty)
    · obtain ⟨fault, hroute⟩ := hnone.ofCheck_eq
      rw [Invocation.run, hroute]
      exact ⟨rfl, rfl⟩
    · rw [Invocation.run, hempty.ofCheck_eq]
      exact ⟨rfl, rfl⟩
  have hchecked : ¬ (arguments.Unrouted folder input ∨ arguments.Routed folder input []) →
      ∃ lines, arguments.Routed folder input lines ∧
        ((Invocation.check arguments).run folder input).ChecksLines lines := by
    intro hsome
    rcases CheckArguments.routed_or_unrouted folder input arguments with ⟨lines, hlines⟩ | hnone
    · have hne : lines ≠ [] := by
        rintro rfl
        exact hsome (.inr hlines)
      refine ⟨lines, hlines, ?_⟩
      rw [Invocation.run, hlines.ofCheck_eq]
      exact Endpoint.checksLines_run hne
    · exact absurd (.inl hnone) hsome
  refine ⟨Ending.failed_iff hfailed fun hsome => ?_, hchecked⟩
  obtain ⟨lines, -, hlines⟩ := hchecked hsome
  exact hlines.status_ne

/-- A replay ends as it should. -/
theorem Ending.ofReplay_run (folder : Folder) (input : ByteArray) (name : Option String) :
    ((Invocation.replay name).run folder input).OfReplay folder name := by
  have hfailed : Fixture.Unloadable folder name →
      ((Invocation.replay name).run folder input).status = 2 ∧
        ((Invocation.replay name).run folder input).output = "" := by
    intro hnone
    obtain ⟨fault, hload⟩ := hnone.load_eq
    simp only [Invocation.run, Endpoint.ofReplay, hload]
    exact ⟨rfl, rfl⟩
  have hreplayed : ¬ Fixture.Unloadable folder name → ∃ f : Fixture, f.Loads folder name ∧
      (Invocation.replay name).run folder input = (Endpoint.replay f).run := by
    intro hsome
    rcases Fixture.loads_or_unloadable folder name with ⟨f, hf⟩ | hnone
    · refine ⟨f, hf, ?_⟩
      simp only [Invocation.run, Endpoint.ofReplay, hf.load_eq, Endpoint.runRoute]
    · exact absurd hnone hsome
  refine ⟨Ending.failed_iff hfailed fun hsome => ?_, fun hsome => ?_⟩
  · obtain ⟨f, -, hrun⟩ := hreplayed hsome
    rw [hrun, Endpoint.status_run_replay]
    split <;> decide
  · obtain ⟨f, hf, hrun⟩ := hreplayed hsome
    rw [hrun]
    exact ⟨f, hf, Endpoint.printsState hf.inRange, Endpoint.status_run_replay f⟩

/-- For all arguments, files and inputs, checks and replays end as they should. -/
theorem Invocation.endings_run (folder : Folder) (input : ByteArray) :
    (∀ arguments, ((check arguments).run folder input).OfCheck folder input arguments) ∧
      ∀ name, ((replay name).run folder input).OfReplay folder name :=
  ⟨Ending.ofCheck_run folder input, Ending.ofReplay_run folder input⟩

end Playback
