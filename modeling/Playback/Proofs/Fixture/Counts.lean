import Playback.Fixture.Load
import Playback.Proofs.Chapter.Uses

/-!
# Counts of a validated fixture

A fixture whose counts are negative is refused, but commands may set a count to any number that
their condition allows. The main result tells when the counts that a replay leaves are negative, and
so when the state that it ends in would be refused.
-/

namespace Playback

/-! ## Negative counts -/

/-- Whether a term holds of counts below some number, however small. -/
def CountTerm.isUpperBound : CountTerm → Bool
  | .below _ | .atMost _ => true
  | .exactly _ | .above _ | .atLeast _ | .within _ _ => false

/-- A term that holds of a negative count is an upper bound. -/
theorem CountTerm.isUpperBound_of_holds {term : CountTerm} {count : Int}
    (h : term.holds count = true) (hnegative : count < 0) : term.isUpperBound = true := by
  cases term with
  | below n => rfl
  | atMost n => rfl
  | exactly n =>
    have hn : count = n := beq_iff_eq.1 h
    omega
  | above n =>
    have hn : (n : Int) < count := of_decide_eq_true h
    omega
  | atLeast n =>
    have hn : (n : Int) ≤ count := of_decide_eq_true h
    omega
  | within low high =>
    have hn : (low : Int) ≤ count := of_decide_eq_true (Bool.and_eq_true_iff.1 h).1
    omega

/-- Whether a source is a use count without a condition, or with one that has an upper bound among
its terms. -/
def Source.allowsNegative : Source → Bool
  | .uses _ condition => condition.all fun e => e.terms.any (·.isUpperBound)
  | .head _ _ _ | .body _ _ | .variable _ _ _ _ => false

/-- A command that commits a negative count replaces a source that allows one. -/
theorem Visit.allowsNegative_of_commit? {v : Visit} {command : Command} {commit : Commit}
    (h : v.commit? command = some commit) (hnegative : commit.uses < 0) :
    command.source.allowsNegative = true := by
  obtain ⟨-, -, condition, hsource, hallowed⟩ := Visit.allowed_of_commit? h
  rw [hsource, Source.allowsNegative]
  cases condition with
  | none => rfl
  | some e =>
    obtain ⟨term, hterm, hholds⟩ := List.any_eq_true.1 hallowed
    have hbound : term.isUpperBound = true := CountTerm.isUpperBound_of_holds hholds hnegative
    exact List.any_eq_true.2 ⟨term, hterm, hbound⟩

/-! ## The last commit -/

/-- A count behind commits is that of the last one to its chapter, or what it was. -/
theorem countAfter_eq_or (chapter : Option String) (count : Option Int) (commits : List Commit) :
    countAfter chapter count commits = (countAfter chapter none commits).or count := by
  induction commits generalizing count with
  | nil => rfl
  | cons commit commits ih =>
    have hcons (start : Option Int) : countAfter chapter start (commit :: commits) =
        countAfter chapter (if commit.chapter = chapter then some commit.uses else start)
          commits := rfl
    rw [hcons, hcons, ih, ih (if commit.chapter = chapter then some commit.uses else none)]
    split
    · rw [Option.or_assoc]
      rfl
    · rw [Option.or_none]

/-- The last commit to a chapter is one of the commits. -/
theorem exists_commit_of_countAfter {chapter : Option String} {commits : List Commit} {uses : Int}
    (h : countAfter chapter none commits = some uses) : ⟨chapter, uses⟩ ∈ commits := by
  induction commits with
  | nil => cases h
  | cons commit commits ih =>
    have hcons : countAfter chapter (if commit.chapter = chapter then some commit.uses else none)
        commits = some uses := h
    rw [countAfter_eq_or] at hcons
    rcases Option.or_eq_some_iff.1 hcons with hlater | ⟨-, hfirst⟩
    · exact List.mem_cons_of_mem commit (ih hlater)
    · obtain ⟨rfl, huses⟩ := Option.ite_none_right_eq_some.1 hfirst
      obtain rfl : commit.uses = uses := Option.some.inj huses
      exact List.mem_cons_self

/-- A count that was not negative is so behind commits when the last one to its chapter is. -/
theorem negative_countAfter_iff {chapter : Option String} {count : Option Int}
    {commits : List Commit} {n : Int} (h : countAfter chapter count commits = some n)
    (hcount : ∀ m, count = some m → 0 ≤ m) :
    n < 0 ↔ ∃ m < 0, countAfter chapter none commits = some m := by
  rw [countAfter_eq_or] at h
  cases hlast : countAfter chapter none commits with
  | none =>
    rw [hlast, Option.none_or] at h
    have hn : 0 ≤ n := hcount n h
    simp [Int.not_lt.2 hn]
  | some m =>
    rw [hlast, Option.some_or] at h
    simp [Option.some.inj h]

/-! ## Validation -/

namespace Fixture

/-- What a fixture without problems says. -/
theorem validate_eq_ok_iff (f : Fixture) :
    f.validate = .ok () ↔ f.chapter.any Text.isBlankText = false ∧ 0 ≤ f.uses ∧
      ∀ name n, f.chapterUses.get? name = some n → 0 ≤ n := by
  have hproblems : f.validate = .ok () ↔ f.problems = [] := by
    rw [validate, ← List.isEmpty_iff]
    split <;> simp_all
  rw [hproblems, problems, List.append_eq_nil_iff, List.append_eq_nil_iff, and_assoc]
  refine and_congr (by simp) (and_congr (by simp) ?_)
  simp only [List.filterMap_eq_nil_iff, Prod.forall, Table.mem_entries_iff]
  refine forall_congr' fun name => forall_congr' fun n => imp_congr_right fun _ => ?_
  simp

/-! ## Replays -/

/-- What the commands of a fixture commit in its replay. -/
def commits (f : Fixture) : List Commit :=
  f.toChapter.commits f.request f.response f.store

/-- The fixture of the state that the replay of a fixture ends in. -/
def after (f : Fixture) : Fixture :=
  { f with
    uses := f.replay.chapter.uses
    response := f.replay.response
    chapterVars := f.replay.store.chapter
    testBounds := f.replay.store.testBounds
    chapterUses := f.replay.store.chapterUses }

/-- The last count that the replay commits to a chapter is negative. -/
def EndsBelow (f : Fixture) (chapter : Option String) : Prop :=
  ∃ n < 0, countAfter chapter none f.commits = some n

/-- When the counts that a replay leaves are negative. -/
structure NegativeCounts (f : Fixture) : Prop where
  /-- The own use count does not exceed the largest count. -/
  bounded : f.replay.chapter.uses ≤ Text.maxCount
  /-- The own use count is negative when the last count committed without a name is. -/
  own : f.replay.chapter.uses < 0 ↔ f.EndsBelow none
  /-- The count under a name is negative when the last count committed to this name is. Under the
  name of the chapter there is its own count. -/
  named : ∀ name n, f.replay.store.usesOf? name = some n →
    (n < 0 ↔ f.EndsBelow (if name = f.chapterName then none else some name))
  /-- The state that the replay ends in is valid unless a count is left negative so. -/
  valid : f.after.validate = .ok () ↔ ∀ chapter ≠ some f.chapterName, ¬ f.EndsBelow chapter
  /-- It takes a command that runs, and replaces a use count without a condition or with one that
  has an upper bound among its terms. -/
  source : ∀ chapter, f.EndsBelow chapter →
    ∃ commands ∈ f.toChapter.running, ∃ c ∈ commands,
      c.WritesUses chapter ∧ c.source.allowsNegative = true

section Replay

variable {f : Fixture}

/-- The use count that a replay leaves is the last one committed, or the next one. -/
theorem uses_replay_eq (f : Fixture) :
    countAfter none (some (Text.nextCount f.uses)) f.commits = some f.replay.chapter.uses :=
  (Chapter.uses_replay f.request f.response f.store f.toChapter).symm

/-- The count that a replay leaves for another chapter is the last one committed to it, or as
before. -/
theorem usesOf?_replay_eq (f : Fixture) {name : String} (hname : name ≠ f.chapterName) :
    countAfter (some name) (f.chapterUses.get? name) f.commits = f.replay.store.usesOf? name :=
  (Chapter.usesOf?_replay_of_ne (c := f.toChapter) f.request f.response f.store hname).symm

/-- What a replay commits is a count. -/
theorem isCount_of_mem_commits {commit : Commit} (h : commit ∈ f.commits) :
    Text.isCount commit.uses = true := by
  obtain ⟨-, -, command, -, w, hw⟩ := Chapter.exists_commit?_of_mem_commits h
  exact (Visit.allowed_of_commit? hw).1

/-- Behind the commits of a replay, what was a count is one. -/
theorem isCount_of_countAfter {chapter : Option String} {count : Option Int} {n : Int}
    (hcount : ∀ m, count = some m → Text.isCount m = true)
    (h : countAfter chapter count f.commits = some n) : Text.isCount n = true := by
  rw [countAfter_eq_or] at h
  rcases Option.or_eq_some_iff.1 h with hcommitted | ⟨-, hcounted⟩
  · exact isCount_of_mem_commits (exists_commit_of_countAfter hcommitted)
  · exact hcount n hcounted

/-- The own use count that a replay leaves is a count if it was one. -/
theorem isCount_uses_replay (huses : Text.isCount f.uses = true) :
    Text.isCount f.replay.chapter.uses = true := by
  refine isCount_of_countAfter ?_ f.uses_replay_eq
  rintro m ⟨⟩
  exact Text.isCount_nextCount huses

/-- The own use count that a replay leaves is negative when the last one committed is. -/
theorem negative_uses_iff (huses : 0 ≤ f.uses) (hmax : f.uses < Text.maxCount) :
    f.replay.chapter.uses < 0 ↔ f.EndsBelow none := by
  refine negative_countAfter_iff f.uses_replay_eq ?_
  intro m hm
  have hm : Text.nextCount f.uses = m := Option.some.inj hm
  rw [Text.nextCount_of_lt hmax] at hm
  omega

/-- A count that a replay leaves under a name is negative when the last one committed is. -/
theorem negative_usesOf?_iff (huses : 0 ≤ f.uses) (hmax : f.uses < Text.maxCount)
    (hcounts : ∀ name n, f.chapterUses.get? name = some n → 0 ≤ n) {name : String} {n : Int}
    (h : f.replay.store.usesOf? name = some n) :
    n < 0 ↔ f.EndsBelow (if name = f.chapterName then none else some name) := by
  by_cases hname : name = f.chapterName
  · have hself : f.replay.store.usesOf? f.chapterName = some f.replay.chapter.uses :=
      Chapter.usesOf?_replay_self f.request f.response f.store f.toChapter
    rw [hname, hself] at h
    rw [if_pos hname, ← Option.some.inj h]
    exact negative_uses_iff huses hmax
  · rw [if_neg hname]
    rw [← f.usesOf?_replay_eq hname] at h
    exact negative_countAfter_iff h (hcounts name)

/-- A replay that leaves a count below zero has run a command that sets it without a lower bound. -/
theorem exists_command_of_endsBelow {chapter : Option String} (h : f.EndsBelow chapter) :
    ∃ commands ∈ f.toChapter.running, ∃ c ∈ commands,
      c.WritesUses chapter ∧ c.source.allowsNegative = true := by
  obtain ⟨n, hnegative, hlast⟩ := h
  have hcommit : ⟨chapter, n⟩ ∈ f.commits := exists_commit_of_countAfter hlast
  obtain ⟨commands, hrunning, c, hc, w, hw⟩ := Chapter.exists_commit?_of_mem_commits hcommit
  exact ⟨commands, hrunning, c, hc, Visit.writesUses_of_commit? hw,
    Visit.allowsNegative_of_commit? hw hnegative⟩

/-- The replay of a valid fixture ends in a valid state unless the last count that it commits to
some chapter is negative. -/
theorem negativeCounts (h : f.validate = .ok ()) (hmax : f.uses < Text.maxCount) :
    f.NegativeCounts := by
  obtain ⟨hchapter, huses, hcounts⟩ := f.validate_eq_ok_iff.1 h
  constructor
  · have hcount : Text.isCount f.uses = true := Text.isCount_iff.2 (by omega)
    exact (Text.isCount_iff.1 (isCount_uses_replay hcount)).2
  · exact negative_uses_iff huses hmax
  · exact fun name n hn => negative_usesOf?_iff huses hmax hcounts hn
  · rw [validate_eq_ok_iff]
    constructor
    · rintro ⟨-, hown, hnamed⟩ chapter hne hbelow
      cases chapter with
      | none => exact Int.not_lt.2 hown ((negative_uses_iff huses hmax).2 hbelow)
      | some name =>
        have hname : name ≠ f.chapterName := fun he => hne (congrArg some he)
        obtain ⟨n, hnegative, hlast⟩ := hbelow
        have hn : f.replay.store.usesOf? name = some n := by
          rw [← f.usesOf?_replay_eq hname, countAfter_eq_or, hlast, Option.some_or]
        exact Int.not_lt.2 (hnamed name n hn) hnegative
    · intro hnone
      refine ⟨hchapter, ?_, ?_⟩
      · refine Int.not_lt.1 fun hnegative => ?_
        exact hnone none (by simp) ((negative_uses_iff huses hmax).1 hnegative)
      · intro name n hn
        refine Int.not_lt.1 fun hnegative => ?_
        refine hnone _ ?_ ((negative_usesOf?_iff huses hmax hcounts hn).1 hnegative)
        split
        · simp
        · rename_i hname
          exact fun he => hname (Option.some.inj he)
  · exact fun chapter hbelow => exists_command_of_endsBelow hbelow

end Replay

/-- A fixture whose commands reset the counts of the visit and of another chapter, each with a
condition that no negative number meets. -/
def resetting : Fixture :=
  { empty with
    chapter := some "login"
    uses := 3
    testBounds := .ofList [("to", "-5")]
    chapterUses := .ofList [("logout", 2), ("login", 9)]
    sequences := [
      ["use:\x7b0..9\x7d->\x7b@\x7b%to\x7d\x7d", "use[logout]:\x7b>=0\x7d->\x7b 0 \x7d"],
      ["use:\x7b4\x7d->\x7b@\x7b0\x7d\x7d", "use:\x7b0,>2\x7d->\x7b0\x7d"]] }

/-- The replay of this fixture ends in a valid state, with both counts at zero. -/
theorem negativeCounts_resetting :
    resetting.validate = .ok () ∧ resetting.uses < Text.maxCount ∧
      resetting.after.validate = .ok () ∧ resetting.after.uses = 0 ∧
      resetting.after.chapterUses.get? "logout" = some 0 := by
  have hvalid : resetting.validate = .ok () := rfl
  have hmax : resetting.uses < Text.maxCount := by decide
  have hguarded : (resetting.toChapter.running.all fun commands =>
      commands.all fun c => !c.source.allowsNegative) = true := by decide +kernel
  have hcounts := negativeCounts hvalid hmax
  refine ⟨hvalid, hmax, hcounts.valid.2 ?_, by decide +kernel, by decide +kernel⟩
  rintro chapter - hbelow
  obtain ⟨commands, hrunning, c, hc, -, hnegative⟩ := hcounts.source chapter hbelow
  have hall := List.all_eq_true.1 (List.all_eq_true.1 hguarded commands hrunning) c hc
  rw [hnegative] at hall
  cases hall

/-- A fixture whose only command sets the use count to a negative number. -/
def goingBelow : Fixture :=
  { empty with sequences := [["use->\x7b-1\x7d"]] }

/-- The counts of this fixture are valid, and those that its replay leaves are not. -/
theorem not_valid_goingBelow :
    goingBelow.validate = .ok () ∧ goingBelow.uses < Text.maxCount ∧
      goingBelow.replay.chapter.uses = -1 ∧
      goingBelow.replay.store.usesOf? "chapter" = some (-1) ∧
      goingBelow.after.validate ≠ .ok () := by
  have huses : goingBelow.after.uses = -1 := by decide +kernel
  refine ⟨rfl, by decide, huses, by decide +kernel, ?_⟩
  intro hvalid
  have hpositive : 0 ≤ goingBelow.after.uses := (validate_eq_ok_iff _).1 hvalid |>.2.1
  rw [huses] at hpositive
  cases hpositive

end Fixture

end Playback
