import Playback.Proofs.Chapter.Compiling
import Playback.Proofs.Chapter.Locals
import Playback.Proofs.Command.Judging
import Playback.Proofs.Command.RoundTrip

/-!
# What a report tells

The report of a replay accounts for every sequence of the chapter, and for each at its own place: a
sequence has run, with an outcome for every line, or it is rejected for its first line that does not
compile.
-/

namespace Playback

/-! ## The first line that does not compile -/

/-- A fault of a sequence is that of its first line which does not compile. -/
structure SequenceFault.IsFirstOf (fault : SequenceFault) (lines : List String) : Prop where
  /-- The line stands at its place. -/
  line : lines[fault.index]? = some fault.line
  /-- The line does not compile, for this cause. -/
  cause : Command.compile fault.line = .error fault.cause
  /-- The lines before it compile. -/
  before : ∀ line ∈ lines.take fault.index, ∃ c, Command.compile line = .ok c

/-- The first line that does not compile is the line at the head, or it is that of the rest. -/
theorem SequenceFault.isFirstOf_cons {fault : SequenceFault} {line : String}
    {lines : List String} :
    fault.IsFirstOf (line :: lines) ↔
      (∃ cause, Command.compile line = .error cause ∧ fault = ⟨0, line, cause⟩) ∨
        (∃ c, Command.compile line = .ok c) ∧
          ∃ rest : SequenceFault, rest.IsFirstOf lines ∧
            fault = { rest with index := rest.index + 1 } := by
  obtain ⟨place, text, cause⟩ := fault
  constructor
  · rintro ⟨hline, hcause, hbefore⟩
    cases place with
    | zero =>
      obtain rfl : line = text := Option.some_inj.1 hline
      exact .inl ⟨cause, hcause, rfl⟩
    | succ place =>
      rw [List.take_succ_cons, List.forall_mem_cons] at hbefore
      exact .inr ⟨hbefore.1, ⟨place, text, cause⟩, ⟨hline, hcause, hbefore.2⟩, rfl⟩
  · rintro (⟨cause, hcause, heq⟩ | ⟨hhead, ⟨place, text, cause⟩, hrest, heq⟩)
    · cases heq
      exact ⟨rfl, hcause, by simp⟩
    · cases heq
      refine ⟨hrest.line, hrest.cause, ?_⟩
      rw [List.take_succ_cons, List.forall_mem_cons]
      exact ⟨hhead, hrest.before⟩

namespace Sequence

/-- The place of a faulty line is counted on from the place of the first line. -/
theorem compileFrom_eq_error_iff {index : Nat} {lines : List String} {fault : SequenceFault} :
    compileFrom index lines = .error fault ↔
      ∃ first : SequenceFault, first.IsFirstOf lines ∧
        fault = { first with index := index + first.index } := by
  induction lines generalizing index with
  | nil =>
    constructor
    · intro h
      cases h
    · rintro ⟨first, hfirst, -⟩
      cases hfirst.line
  | cons line lines ih =>
    rw [compileFrom_cons]
    cases hline : Command.compile line with
    | error cause =>
      simp [SequenceFault.isFirstOf_cons, hline, eq_comm]
    | ok command =>
      have hindex (n : Nat) : index + 1 + n = index + (n + 1) := by omega
      simp [SequenceFault.isFirstOf_cons, hline, map_eq_error_iff, ih, hindex]

/-- A sequence is rejected with the fault of its first line that does not compile. -/
theorem compile_eq_error_iff {lines : List String} {fault : SequenceFault} :
    compile lines = .error fault ↔ fault.IsFirstOf lines := by
  rw [compile, compileFrom_eq_error_iff]
  simp only [Nat.zero_add]
  constructor
  · rintro ⟨first, hfirst, rfl⟩
    exact hfirst
  · exact fun h => ⟨fault, h, rfl⟩

/-- The commands of a sequence are written as its lines. -/
theorem lines_of_compile {lines : List String} {commands : Sequence}
    (h : compile lines = .ok commands) : commands.lines = lines := by
  have hcommands : lines.map Command.compile = commands.map .ok := compileFrom_eq_ok_iff.1 h
  clear h
  induction lines generalizing commands with
  | nil =>
    obtain rfl : commands = [] := by simpa using hcommands.symm
    rfl
  | cons line lines ih =>
    obtain ⟨c, rest, rfl, hline, hrest⟩ := List.map_eq_cons_iff.1 hcommands.symm
    have hread : Command.read line = .ok c := (Command.compile_eq_ok_iff.1 hline.symm).1
    have htext : c.text = line := (Command.read_eq_ok_iff.1 hread).1
    rw [Sequence.lines, List.map_cons, htext]
    exact congrArg (line :: ·) (ih hrest.symm)

end Sequence

/-! ## Places -/

/-- A sequence is run at its place, with an outcome for every command. -/
theorem Visit.mem_runAll {v : Visit} {entries : List (Nat × Sequence)} {place : Nat}
    {outcomes : List Outcome} (h : (place, outcomes) ∈ (v.runAll entries).2) :
    ∃ commands, (place, commands) ∈ entries ∧ outcomes.length = commands.length := by
  induction entries generalizing v with
  | nil => cases h
  | cons entry entries ih =>
    obtain ⟨first, commands⟩ := entry
    rw [Visit.runAll_cons, List.mem_cons] at h
    rcases h with heq | hmem
    · cases heq
      refine ⟨commands, List.mem_cons_self, ?_⟩
      rw [Visit.run_eq]
      exact Visit.length_executeAll _ commands
    · obtain ⟨other, hother, hlength⟩ := ih hmem
      exact ⟨other, List.mem_cons_of_mem _ hother, hlength⟩

/-- Every sequence is run, in order. -/
theorem Visit.places_runAll (v : Visit) (entries : List (Nat × Sequence)) :
    (v.runAll entries).2.map (·.1) = entries.map (·.1) := by
  induction entries generalizing v with
  | nil => rfl
  | cons entry entries ih =>
    obtain ⟨place, commands⟩ := entry
    rw [Visit.runAll_cons, List.map_cons, ih, List.map_cons]

namespace Chapter

variable (c : Chapter)

/-- The places of selected sequences ascend. -/
theorem pairwise_places {β : Type} {select : List String × Nat → Option β} {place : β → Nat}
    (h : ∀ entry selected, select entry = some selected → place selected = entry.2) :
    ((c.sequences.zipIdx.filterMap select).map place).Pairwise (· < ·) := by
  have hplaces : (c.sequences.zipIdx.map (·.2)).Pairwise (· < ·) := by
    rw [List.zipIdx_map_snd]
    exact List.pairwise_lt_range'
  rw [List.pairwise_map] at hplaces ⊢
  refine hplaces.filterMap select fun entry other hlt selected hselected last hlast => ?_
  rw [h entry selected hselected, h other last hlast]
  exact hlt

/-- The places of the sequences that compile ascend. -/
theorem compiled_ascends : (c.compiled.map (·.1)).Pairwise (· < ·) := by
  refine c.pairwise_places fun ⟨lines, place⟩ selected hselected => ?_
  dsimp only at hselected
  cases hcompile : Sequence.compile lines with
  | ok commands =>
    rw [hcompile] at hselected
    cases hselected
    rfl
  | error fault =>
    rw [hcompile] at hselected
    cases hselected

/-- The places of the rejected sequences ascend. -/
theorem rejected_ascends : (c.rejected.map (·.sequence)).Pairwise (· < ·) := by
  refine c.pairwise_places fun ⟨lines, place⟩ selected hselected => ?_
  dsimp only at hselected
  cases hcompile : Sequence.compile lines with
  | ok commands =>
    rw [hcompile] at hselected
    cases hselected
  | error fault =>
    rw [hcompile] at hselected
    cases hselected
    rfl

/-- A place is one of a sequence that compiles. -/
theorem mem_compiled_places_iff {place : Nat} :
    place ∈ c.compiled.map (·.1) ↔ ∃ lines, c.sequences[place]? = some lines ∧
      ∀ line ∈ lines, ∃ command, Command.compile line = .ok command := by
  simp only [List.mem_map, Prod.exists, exists_and_right, exists_eq_right, mem_compiled_iff,
    ← Sequence.exists_compile_eq_ok_iff]
  constructor
  · rintro ⟨commands, lines, hlines, hcompile⟩
    exact ⟨lines, hlines, commands, hcompile⟩
  · rintro ⟨lines, hlines, commands, hcompile⟩
    exact ⟨commands, lines, hlines, hcompile⟩

/-- A place is one of a sequence that is rejected. -/
theorem mem_rejected_places_iff {place : Nat} :
    place ∈ c.rejected.map (·.sequence) ↔ ∃ lines, c.sequences[place]? = some lines ∧
      ¬ ∀ line ∈ lines, ∃ command, Command.compile line = .ok command := by
  rw [List.mem_map]
  simp only [← Sequence.exists_compile_eq_ok_iff]
  constructor
  · rintro ⟨rejection, hmem, rfl⟩
    obtain ⟨lines, hlines, hcompile⟩ := c.mem_rejected_iff.1 hmem
    refine ⟨lines, hlines, ?_⟩
    rintro ⟨commands, hok⟩
    rw [hcompile] at hok
    cases hok
  · rintro ⟨lines, hlines, hfault⟩
    cases hcompile : Sequence.compile lines with
    | ok commands => exact absurd ⟨commands, hcompile⟩ hfault
    | error fault => exact ⟨⟨place, fault⟩, c.mem_rejected_iff.2 ⟨lines, hlines, hcompile⟩, rfl⟩

end Chapter

/-! ## The report -/

/-- The places of the sequences that ran. -/
def Report.executedPlaces (report : Report) : List Nat :=
  report.executed.map (·.1)

/-- The places of the sequences that did not run. -/
def Report.rejectedPlaces (report : Report) : List Nat :=
  report.rejected.map (·.sequence)

/-- A report accounts for sequences of lines: each has run or is rejected, in order and at its own
place. -/
structure Report.AccountsFor (report : Report) (sequences : List (List String)) : Prop where
  /-- The places of the sequences that ran ascend. -/
  executed_ascends : report.executedPlaces.Pairwise (· < ·)
  /-- The places of the rejected sequences ascend. -/
  rejected_ascends : report.rejectedPlaces.Pairwise (· < ·)
  /-- No sequence that ran is rejected. -/
  disjoint : report.executedPlaces.Disjoint report.rejectedPlaces
  /-- There is a place for every sequence, and no other place. -/
  mem_places_iff : ∀ place, place ∈ report.executedPlaces ∨ place ∈ report.rejectedPlaces ↔
    place < sequences.length
  /-- A sequence ran when all of its lines compile. -/
  mem_executedPlaces_iff : ∀ place lines, sequences[place]? = some lines →
    (place ∈ report.executedPlaces ↔ ∀ line ∈ lines, ∃ c, Command.compile line = .ok c)
  /-- A sequence that ran has commands which are written as its lines, and an outcome for every
  line. -/
  executed : ∀ entry ∈ report.executed, ∃ lines commands, sequences[entry.1]? = some lines ∧
    Sequence.compile lines = .ok commands ∧ commands.lines = lines ∧
      entry.2.length = lines.length
  /-- A sequence is rejected for its first line that does not compile. -/
  rejected : ∀ rejection ∈ report.rejected, ∃ lines,
    sequences[rejection.sequence]? = some lines ∧ rejection.fault.IsFirstOf lines

/-- The report of a replay accounts for the sequences of the chapter. -/
theorem Chapter.accountsFor_replay (c : Chapter) (request : Request) (response : Response)
    (s : Store) : (c.replay request response s).report.AccountsFor c.sequences := by
  have hexecuted : (c.replay request response s).report.executedPlaces = c.compiled.map (·.1) :=
    Visit.places_runAll _ _
  have hrejected : (c.replay request response s).report.rejectedPlaces =
      c.rejected.map (·.sequence) := rfl
  constructor
  case executed_ascends =>
    rw [hexecuted]
    exact c.compiled_ascends
  case rejected_ascends => exact c.rejected_ascends
  case disjoint =>
    rw [hexecuted, hrejected]
    intro place hcompiled hrejected
    obtain ⟨lines, hlines, hok⟩ := c.mem_compiled_places_iff.1 hcompiled
    obtain ⟨others, hothers, hfault⟩ := c.mem_rejected_places_iff.1 hrejected
    rw [hlines, Option.some_inj] at hothers
    exact hfault (hothers ▸ hok)
  case mem_places_iff =>
    intro place
    have hplace : place < c.sequences.length ↔ ∃ lines, c.sequences[place]? = some lines := by
      simp [List.getElem?_eq_some_iff]
    rw [hexecuted, hrejected, mem_compiled_places_iff, mem_rejected_places_iff, hplace]
    constructor
    · rintro (⟨lines, hlines, -⟩ | ⟨lines, hlines, -⟩) <;> exact ⟨lines, hlines⟩
    · rintro ⟨lines, hlines⟩
      by_cases hok : ∀ line ∈ lines, ∃ command, Command.compile line = .ok command
      · exact .inl ⟨lines, hlines, hok⟩
      · exact .inr ⟨lines, hlines, hok⟩
  case mem_executedPlaces_iff =>
    intro place lines hlines
    simp only [hexecuted, mem_compiled_places_iff, hlines, Option.some_inj, exists_eq_left']
  case executed =>
    rintro ⟨place, outcomes⟩ hmem
    obtain ⟨commands, hcompiled, hlength⟩ := Visit.mem_runAll hmem
    obtain ⟨lines, hlines, hcompile⟩ := c.mem_compiled_iff.1 hcompiled
    have htext := Sequence.lines_of_compile hcompile
    refine ⟨lines, commands, hlines, hcompile, htext, ?_⟩
    rw [hlength, ← htext, Sequence.lines, List.length_map]
  case rejected =>
    intro rejection hmem
    obtain ⟨lines, hlines, hcompile⟩ := c.mem_rejected_iff.1 hmem
    exact ⟨lines, hlines, Sequence.compile_eq_error_iff.1 hcompile⟩

end Playback
