import Playback.Proofs.Chapter.Run
import Playback.Proofs.Visit.Commits

/-!
# The use counts of a replay

A replay counts its use in the chapter and in the store, and ends with the same count in both. In
between a use count is the last one that a command has committed to it, and what it was at the start
where none has.
-/

namespace Playback

/-! ## Runs of sequences -/

namespace Visit

theorem usesOf?_endSequence (v : Visit) (chapter : Option String) :
    v.endSequence.usesOf? chapter = v.usesOf? chapter := by
  cases chapter <;> rfl

/-- What the commands of sequences commit that are run in order. -/
def commitsAll (v : Visit) : List (Nat × Sequence) → List Commit
  | [] => []
  | (_, commands) :: rest => v.commits commands ++ (v.run commands).1.commitsAll rest

/-- A use count after sequences is the last one that they commit to its chapter, or as it was. -/
theorem usesOf?_runAll (v : Visit) (sequences : List (Nat × Sequence)) (chapter : Option String) :
    (v.runAll sequences).1.usesOf? chapter =
      countAfter chapter (v.usesOf? chapter) (v.commitsAll sequences) := by
  induction sequences generalizing v with
  | nil => rfl
  | cons entry rest ih =>
    obtain ⟨place, commands⟩ := entry
    rw [runAll_cons, ih, run_eq, usesOf?_endSequence, usesOf?_executeAll, commitsAll,
      countAfter_append, run_eq]

/-- What sequences commit is committed by one of their commands. -/
theorem exists_commit?_of_mem_commitsAll {v : Visit} {sequences : List (Nat × Sequence)}
    {commit : Commit} (h : commit ∈ v.commitsAll sequences) :
    ∃ commands ∈ sequences.map (·.2), ∃ c ∈ commands, ∃ w : Visit, w.commit? c = some commit := by
  induction sequences generalizing v with
  | nil => cases h
  | cons entry rest ih =>
    obtain ⟨place, commands⟩ := entry
    rw [commitsAll, List.mem_append] at h
    rw [List.map_cons]
    rcases h with h | h
    · exact ⟨commands, List.mem_cons_self, exists_commit?_of_mem_commits h⟩
    · obtain ⟨others, hothers, hcommit⟩ := ih h
      exact ⟨others, List.mem_cons_of_mem commands hothers, hcommit⟩

end Visit

/-! ## Replays -/

namespace Chapter

variable {c : Chapter} (request : Request) (response : Response) (s : Store)

/-- What the commands of a chapter commit in a replay. -/
def commits (c : Chapter) (request : Request) (response : Response) (s : Store) : List Commit :=
  (c.begin request response s).commitsAll c.compiled

/-- What has been committed in a replay at a moment. -/
def Moment.commits (m : c.Moment) (request : Request) (response : Response) (s : Store) :
    List Commit :=
  (c.begin request response s).commitsAll m.ran ++
    ((c.begin request response s).runAll m.ran).1.commits m.done

theorem usesOf?_begin_own (c : Chapter) :
    (c.begin request response s).usesOf? none = some (Text.nextCount c.uses) := rfl

/-- Of the use counts in the store, the start of a replay sets that of the chapter. -/
theorem usesOf?_begin_named (c : Chapter) (name : String) :
    (c.begin request response s).usesOf? (some name) =
      if name = c.name then some (Text.nextCount c.uses) else s.usesOf? name :=
  s.usesOf?_setUses c.name name (Text.nextCount c.uses)

/-- At a moment of a replay, a use count is the last one that has been committed to its chapter, or
as it was at the start. -/
theorem Moment.usesOf?_visit (m : c.Moment) (chapter : Option String) :
    (m.visit request response s).usesOf? chapter =
      countAfter chapter ((c.begin request response s).usesOf? chapter)
        (m.commits request response s) := by
  rw [visit, Visit.usesOf?_executeAll, Visit.usesOf?_runAll, commits, countAfter_append]

/-- A replay leaves the chapter with the last count that it has committed to itself without a name,
or with the next count. -/
theorem uses_replay (c : Chapter) :
    some (c.replay request response s).chapter.uses =
      countAfter none (some (Text.nextCount c.uses)) (c.commits request response s) :=
  (c.begin request response s).usesOf?_runAll c.compiled none

/-- At the end of a replay the store has the own use count of the chapter. -/
theorem usesOf?_replay_self (c : Chapter) :
    (c.replay request response s).store.usesOf? c.name =
      some (c.replay request response s).chapter.uses := by
  change (Store.setUses _ c.name _).usesOf? c.name = _
  rw [Store.usesOf?_setUses, if_pos rfl]
  rfl

/-- A replay leaves another chapter with the last count that it has committed to it, or as before.
-/
theorem usesOf?_replay_of_ne {name : String} (hname : name ≠ c.name) :
    (c.replay request response s).store.usesOf? name =
      countAfter (some name) (s.usesOf? name) (c.commits request response s) := by
  change (Store.setUses _ c.name _).usesOf? name = _
  rw [Store.usesOf?_setUses, if_neg hname]
  have hrun := (c.begin request response s).usesOf?_runAll c.compiled (some name)
  rw [usesOf?_begin_named, if_neg hname] at hrun
  exact hrun

/-- What a replay commits is committed by a command of a sequence that runs. -/
theorem exists_commit?_of_mem_commits {c : Chapter} {request : Request} {response : Response}
    {s : Store} {commit : Commit} (h : commit ∈ c.commits request response s) :
    ∃ commands ∈ c.running, ∃ command ∈ commands, ∃ w : Visit,
      w.commit? command = some commit := by
  rw [← map_snd_compiled]
  exact Visit.exists_commit?_of_mem_commitsAll h

end Chapter

/-! ## Chapters that leave use counts alone -/

/-- Whether a source is a use count. -/
def Source.isUses : Source → Bool
  | .uses _ _ => true
  | .head _ _ _ | .body _ _ | .variable _ _ _ _ => false

/-- Whether a command replaces a use count. -/
def Command.replacesUses (c : Command) : Bool :=
  c.isReplacement && c.source.isUses

/-- A command that writes some use count replaces a use count. -/
theorem Command.replacesUses_of_writesUses (c : Command) {chapter : Option String}
    (h : c.WritesUses chapter) : c.replacesUses = true := by
  obtain ⟨hreplacement, condition, hsource⟩ := h
  rw [Command.replacesUses, hreplacement, hsource]
  rfl

namespace Chapter

/-- No command that runs in a replay of the chapter replaces a use count. -/
def leavesUses (c : Chapter) : Bool :=
  c.running.all fun commands => commands.all fun command => !command.replacesUses

/-- A chapter that leaves use counts alone commits none. -/
theorem commits_eq_nil {c : Chapter} (h : c.leavesUses = true) (request : Request)
    (response : Response) (s : Store) : c.commits request response s = [] := by
  rw [List.eq_nil_iff_forall_not_mem]
  intro commit hcommit
  obtain ⟨commands, hrunning, command, hcommand, w, hcommit⟩ :=
    exists_commit?_of_mem_commits hcommit
  have hall := List.all_eq_true.1 (List.all_eq_true.1 h commands hrunning) command hcommand
  rw [command.replacesUses_of_writesUses (Visit.writesUses_of_commit? hcommit)] at hall
  cases hall

end Chapter

end Playback
