import Playback.Chapter

/-!
# Isolation of sequences

A sequence with a line that does not compile has no effect: the replay of a chapter is that of the
chapter without such sequences, but for the report of what did not run. The run of sequences never
looks at their places, so that only the commands of those that compile count.
-/

namespace Playback

/-- Whether all lines of a sequence compile. -/
def Sequence.compiles (lines : List String) : Bool :=
  (Sequence.compile lines).isOk

/-- The lines of a sequence compile when it has commands. -/
theorem Sequence.compiles_iff {lines : List String} :
    Sequence.compiles lines = true ↔ ∃ commands, Sequence.compile lines = .ok commands := by
  rw [Sequence.compiles]
  cases Sequence.compile lines with
  | ok commands => exact ⟨fun _ => ⟨commands, rfl⟩, fun _ => rfl⟩
  | error fault => exact ⟨fun h => (nomatch h), fun ⟨_, h⟩ => (nomatch h)⟩

/-- The outcomes of the commands of each sequence, without the places of the sequences. -/
def Report.outcomes (report : Report) : List (List Outcome) :=
  report.executed.map (·.2)

/-- Two replays leave the same response, the same variables and counts, and the same outcomes. -/
structure Replay.SameEffects (a b : Replay) : Prop where
  /-- The responses. -/
  response : a.response = b.response
  /-- The variables of all scopes, and the use counts of chapters by name. -/
  store : a.store = b.store
  /-- The use counts of the replayed chapters. -/
  uses : a.chapter.uses = b.chapter.uses
  /-- The outcomes of the sequences that ran, in order. -/
  outcomes : a.report.outcomes = b.report.outcomes

namespace Chapter

/-- The chapter without the sequences that do not compile. -/
def withoutRejected (c : Chapter) : Chapter :=
  { c with sequences := c.sequences.filter Sequence.compiles }

/-- The commands of the sequences that compile, in order. -/
def running (c : Chapter) : List Sequence :=
  c.sequences.filterMap fun lines => (Sequence.compile lines).toOption

end Chapter

/-- The commands that run in a replay are those of the sequences that compile. -/
theorem Chapter.map_snd_compiled (c : Chapter) : c.compiled.map (·.2) = c.running := by
  have hplaces : c.running =
      c.sequences.zipIdx.filterMap fun entry => (Sequence.compile entry.1).toOption := by
    change _ = c.sequences.zipIdx.filterMap
      ((fun lines => (Sequence.compile lines).toOption) ∘ (·.1))
    rw [← List.filterMap_map, List.zipIdx_map_fst]
    rfl
  rw [hplaces, Chapter.compiled, List.map_filterMap]
  congr 1
  funext ⟨lines, place⟩
  cases hcompile : Sequence.compile lines <;> simp [hcompile, Except.toOption]

/-- Without the sequences that do not compile the same commands run. -/
theorem Chapter.running_withoutRejected (c : Chapter) : c.withoutRejected.running = c.running := by
  rw [Chapter.running, Chapter.running, Chapter.withoutRejected, List.filterMap_filter]
  congr 1
  funext lines
  rw [Sequence.compiles]
  cases Sequence.compile lines <;> rfl

/-! ## Runs -/

theorem Visit.runAll_cons (v : Visit) (place : Nat) (commands : Sequence)
    (rest : List (Nat × Sequence)) :
    v.runAll ((place, commands) :: rest) =
      (((v.run commands).1.runAll rest).1,
        (place, (v.run commands).2) :: ((v.run commands).1.runAll rest).2) := rfl

/-- Runs of the same commands at different places end in the same visit with the same outcomes. -/
theorem Visit.runAll_congr (v : Visit) {as bs : List (Nat × Sequence)}
    (h : as.map (·.2) = bs.map (·.2)) :
    (v.runAll as).1 = (v.runAll bs).1 ∧
      (v.runAll as).2.map (·.2) = (v.runAll bs).2.map (·.2) := by
  -- over all visits, since the next sequence starts from what this one leaves behind
  induction as generalizing v bs with
  | nil =>
    have hbs : bs = [] := by simpa using h.symm
    rw [hbs]
    exact ⟨rfl, rfl⟩
  | cons a as ih =>
    obtain ⟨place, commands⟩ := a
    obtain ⟨b, rest, rfl, rfl, hrest⟩ := List.map_eq_cons_iff.1 h.symm
    obtain ⟨other, commands⟩ := b
    obtain ⟨hvisit, houtcomes⟩ := ih (v.run commands).1 hrest.symm
    rw [Visit.runAll_cons, Visit.runAll_cons]
    refine ⟨hvisit, ?_⟩
    rw [List.map_cons, List.map_cons, houtcomes]

namespace Chapter

variable (request : Request) (response : Response) (s : Store)

/-- Chapters with the same name and count that run the same commands have the same effects. -/
theorem replay_congr {c d : Chapter} (hname : c.name = d.name) (huses : c.uses = d.uses)
    (hrunning : c.running = d.running) :
    (c.replay request response s).SameEffects (d.replay request response s) := by
  have hbegin : c.begin request response s = d.begin request response s := by
    rw [begin, begin, hname, huses]
  have hcommands : c.compiled.map (·.2) = d.compiled.map (·.2) := by
    rw [map_snd_compiled, map_snd_compiled, hrunning]
  obtain ⟨hvisit, houtcomes⟩ :=
    Visit.runAll_congr (d.begin request response s) hcommands
  constructor
  · simp only [replay, hbegin, hvisit]
  · simp only [replay, hbegin, hvisit, hname]
  · simp only [replay, hbegin, hvisit]
  · simpa only [replay, hbegin, Report.outcomes] using houtcomes

/-- The replay of a chapter has the effects of the replay without the sequences that do not
compile: none of their lines has an effect, not even those before the first faulty one. -/
theorem replay_withoutRejected (c : Chapter) :
    (c.replay request response s).SameEffects (c.withoutRejected.replay request response s) :=
  replay_congr request response s rfl rfl c.running_withoutRejected.symm

end Chapter

end Playback
