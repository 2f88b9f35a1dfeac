import Playback.Proofs.Visit.WriteSet

/-!
# Committed use counts

A command commits a use count when it replaces one, its gate passes, and its template renders to a
number that the condition of its source allows. A use count is the last one that has been committed
to it, and what it was before where none has.
-/

namespace Playback

open Text

/-- A use count that a command commits. -/
structure Commit where
  /-- The chapter that the command names; without a name it is the visited one. -/
  chapter : Option String
  /-- The count. -/
  uses : Int
  deriving DecidableEq, Repr

/-- The use count of a chapter behind commits, of which the last one to it counts. -/
def countAfter (chapter : Option String) (count : Option Int) (commits : List Commit) :
    Option Int :=
  commits.foldl
    (fun count commit => if commit.chapter = chapter then some commit.uses else count) count

theorem countAfter_append (chapter : Option String) (count : Option Int)
    (first second : List Commit) :
    countAfter chapter count (first ++ second) =
      countAfter chapter (countAfter chapter count first) second :=
  List.foldl_append

/-- Commits to other chapters do not count. -/
theorem countAfter_of_forall_ne {chapter : Option String} {commits : List Commit}
    (h : ∀ commit ∈ commits, commit.chapter ≠ chapter) (count : Option Int) :
    countAfter chapter count commits = count := by
  induction commits with
  | nil => rfl
  | cons commit commits ih =>
    rw [List.forall_mem_cons] at h
    rw [countAfter, List.foldl_cons, if_neg h.1]
    exact ih h.2

namespace Visit

/-- What a command commits in a visit. -/
def commit? (v : Visit) (command : Command) : Option Commit :=
  match command.source, command.action with
  | .uses chapter condition, some (.replace template) =>
    let found := v.find (.uses chapter condition)
    if command.passes found.matched then
      ((countOf? (trimChars (template.renderIn v.store found.groups).toList)).filter
        (countAllowed condition)).map (⟨chapter, ·⟩)
    else none
  | _, _ => none

/-- What commands commit that are run in order. -/
def commits (v : Visit) : List Command → List Commit
  | [] => []
  | command :: commands =>
    (v.commit? command).toList ++ (v.execute command).1.commits commands

/-! ## Commands -/

/-- What a command commits is a count that the condition of its source allows, to the chapter of
its source. -/
theorem allowed_of_commit? {v : Visit} {command : Command} {commit : Commit}
    (h : v.commit? command = some commit) :
    isCount commit.uses = true ∧ command.isReplacement = true ∧
      ∃ condition, command.source = .uses commit.chapter condition ∧
        countAllowed condition commit.uses = true := by
  unfold commit? at h
  split at h
  · rename_i chapter condition template hsource haction
    dsimp only at h
    split at h
    · obtain ⟨uses, hcount, rfl⟩ := Option.map_eq_some_iff.1 h
      obtain ⟨hread, hallowed⟩ := Option.filter_eq_some_iff.1 hcount
      refine ⟨isCount_of_countOf? hread, ?_, condition, hsource, hallowed⟩
      rw [Command.isReplacement, haction]
      rfl
    · cases h
  · cases h

/-- A command commits to the chapter whose use count it may write. -/
theorem writesUses_of_commit? {v : Visit} {command : Command} {commit : Commit}
    (h : v.commit? command = some commit) : command.WritesUses commit.chapter := by
  obtain ⟨-, hreplacement, condition, hsource, -⟩ := allowed_of_commit? h
  exact ⟨hreplacement, condition, hsource⟩

/-- A use count after one has been set. -/
theorem usesOf?_setUses (v : Visit) (chapter other : Option String) (uses : Int) :
    (v.setUses other uses).usesOf? chapter =
      if other = chapter then some uses else v.usesOf? chapter := by
  cases other with
  | none => cases chapter <;> rfl
  | some other =>
    cases chapter with
    | none => rfl
    | some chapter =>
      simp only [Option.some.injEq, eq_comm (a := other)]
      exact v.store.usesOf?_setUses other chapter uses

/-- A replacement of a use count sets the count that it commits, and does nothing else. -/
theorem execute_of_replace (v : Visit) {command : Command} {chapter : Option String}
    {condition : Option CountExpr} {template : Template}
    (hsource : command.source = .uses chapter condition)
    (haction : command.action = some (.replace template)) :
    (v.execute command).1 =
      match v.commit? command with
      | some commit => v.setUses commit.chapter commit.uses
      | none => v := by
  simp only [execute, commit?, hsource, haction]
  cases command.passes (v.find (.uses chapter condition)).matched with
  | false =>
    cases command.isOptional with
    | false => rfl
    | true => rfl
  | true =>
    simp only [act, replace]
    cases (countOf? (trimChars (template.renderIn v.store
      (v.find (.uses chapter condition)).groups).toList)).filter (countAllowed condition) with
    | none => rfl
    | some uses => rfl

/-- A use count after a command is the one that it commits, or as it was. -/
theorem usesOf?_execute (v : Visit) (command : Command) (chapter : Option String) :
    (v.execute command).1.usesOf? chapter =
      countAfter chapter (v.usesOf? chapter) (v.commit? command).toList := by
  by_cases hwrites : command.WritesUses chapter
  · obtain ⟨hreplacement, condition, hsource⟩ := hwrites
    obtain ⟨template, haction⟩ := Command.isReplacement_iff.1 hreplacement
    rw [v.execute_of_replace hsource haction]
    cases v.commit? command with
    | none => rfl
    | some commit => exact v.usesOf?_setUses chapter commit.chapter commit.uses
  · rw [(v.effect_execute command).usesOf?_eq hwrites, countAfter_of_forall_ne]
    intro commit hcommit hchapter
    exact hwrites (hchapter ▸ writesUses_of_commit? (Option.mem_toList.1 hcommit))

/-- A use count after commands is the last one that they commit to its chapter, or as it was. -/
theorem usesOf?_executeAll (v : Visit) (commands : List Command) (chapter : Option String) :
    (v.executeAll commands).1.usesOf? chapter =
      countAfter chapter (v.usesOf? chapter) (v.commits commands) := by
  induction commands generalizing v with
  | nil => rfl
  | cons command commands ih =>
    rw [executeAll_cons, ih, usesOf?_execute, commits, countAfter_append]

/-- What commands commit is committed by one of them. -/
theorem exists_commit?_of_mem_commits {v : Visit} {commands : List Command} {commit : Commit}
    (h : commit ∈ v.commits commands) :
    ∃ c ∈ commands, ∃ w : Visit, w.commit? c = some commit := by
  induction commands generalizing v with
  | nil => cases h
  | cons command commands ih =>
    rw [commits, List.mem_append, Option.mem_toList] at h
    rcases h with h | h
    · exact ⟨command, List.mem_cons_self, v, h⟩
    · obtain ⟨c, hc, hcommit⟩ := ih h
      exact ⟨c, List.mem_cons_of_mem command hc, hcommit⟩

end Visit

end Playback
