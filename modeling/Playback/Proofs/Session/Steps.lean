import Playback.Proofs.Chapter.Uses
import Playback.Session

/-!
# Steps of a session

What a step does to the chapters and to the use counts. Only a replay changes a chapter, and it
changes nothing but the use count of the chapter that is replayed. Between the replays of a chapter,
the count that the store keeps under its name is the last one that replays of others have committed
to it.
-/

namespace Playback

namespace Session

/-- Whether a step replays the chapter with a name. -/
def Step.visits (name : String) : Step → Bool
  | .replay chapter _ _ => chapter == name
  | .beginChapter | .clearLocal | .set _ _ _ => false

/-- A step that visits a chapter is a replay of it. -/
theorem Step.eq_replay_of_visits {name : String} {x : Step} (h : x.visits name = true) :
    ∃ request response, x = .replay name request response := by
  cases x with
  | replay other request response =>
    obtain rfl : other = name := by simpa [Step.visits] using h
    exact ⟨request, response, rfl⟩
  | beginChapter => cases h
  | clearLocal => cases h
  | set scope key value => cases h

/-- The use counts that the chapters keep themselves are below the largest count. -/
def BelowMax (s : Session) : Prop :=
  ∀ entry ∈ s.chapters.entries, entry.2.uses < Text.maxCount

instance (s : Session) : Decidable s.BelowMax :=
  inferInstanceAs (Decidable (∀ entry ∈ s.chapters.entries, entry.2.uses < Text.maxCount))

/-- Below the largest count, the next count of a chapter is one more. -/
theorem nextCount_of_belowMax {s : Session} (h : s.BelowMax) {name : String} {c : Chapter}
    (hc : s.chapter? name = some c) : Text.nextCount c.uses = c.uses + 1 :=
  Text.nextCount_of_lt (h (name, c) (Table.mem_entries_iff.2 hc))

/-- What the commands of a chapter commit when a step replays it. -/
def stepCommits (s : Session) : Step → List Commit
  | .replay name request response =>
    match s.chapter? name with
    | some c => c.commits request response s.store
    | none => []
  | .beginChapter | .clearLocal | .set _ _ _ => []

/-- What is committed in steps. -/
def commits (s : Session) : List Step → List Commit
  | [] => []
  | x :: steps => s.stepCommits x ++ (s.step x).commits steps

theorem run_append (s : Session) (first second : List Step) :
    s.run (first ++ second) = (s.run first).run second := by
  induction first generalizing s with
  | nil => rfl
  | cons x first ih => exact ih (s.step x)

/-! ## Replays -/

section Replay

variable {s : Session} {name : String} {c : Chapter} (request : Request) (response : Response)

/-- A replayed chapter is kept with its new use count. -/
theorem chapter?_replay_self (h : s.chapter? name = some c) :
    (s.replay name request response).chapter? name =
      some (c.replay request response s.store).chapter := by
  have hname : c.name = name := name_of_chapter? h
  rw [replay_of_some h, chapter?_update]
  exact if_pos hname.symm

/-- The other chapters are left alone by a replay. -/
theorem chapter?_replay_of_ne {other : String} (hne : other ≠ name) :
    (s.replay name request response).chapter? other = s.chapter? other := by
  cases h : s.chapter? name with
  | none => rw [replay_of_none h]
  | some c =>
    have hname : c.name = name := name_of_chapter? h
    rw [replay_of_some h, chapter?_update]
    exact if_neg fun he => hne (he.trans hname)

theorem store_replay (h : s.chapter? name = some c) :
    (s.replay name request response).store = (c.replay request response s.store).store := by
  rw [replay_of_some h, store_update]

end Replay

/-! ## What a step keeps -/

section Frame

variable {s : Session} {name : String} {x : Step}

/-- A step changes no chapter that it does not replay. -/
theorem chapter?_step_of_not_visits (h : x.visits name = false) :
    (s.step x).chapter? name = s.chapter? name := by
  cases x with
  | replay other request response =>
    exact chapter?_replay_of_ne request response fun he => by simp [Step.visits, he] at h
  | beginChapter => rfl
  | clearLocal => rfl
  | set scope key value => rfl

/-- After a step that does not replay the chapter with a name, the store has the last count that has
been committed to that chapter, or what it had. -/
theorem usesOf?_step (hvisits : x.visits name = false) :
    (s.step x).store.usesOf? name =
      countAfter (some name) (s.store.usesOf? name) (s.stepCommits x) := by
  cases x with
  | replay other request response =>
    have hne : other ≠ name := by simpa [Step.visits] using hvisits
    change (s.replay other request response).store.usesOf? name = _
    rw [stepCommits]
    cases hc : s.chapter? other with
    | none =>
      rw [replay_of_none hc]
      rfl
    | some c =>
      have hname : name ≠ c.name := fun he => hne (he.trans (name_of_chapter? hc)).symm
      rw [store_replay request response hc]
      exact Chapter.usesOf?_replay_of_ne request response s.store hname
  | beginChapter => rfl
  | clearLocal => rfl
  | set scope key value => exact s.store.usesOf?_set scope key value name

/-- Of a chapter a step changes at most the use count. -/
theorem exists_uses_step (s : Session) (x : Step) (name : String) :
    ∃ uses : Int → Int, (s.step x).chapter? name =
      (s.chapter? name).map fun c => { c with uses := uses c.uses } := by
  cases hvisits : x.visits name with
  | false =>
    refine ⟨id, ?_⟩
    rw [chapter?_step_of_not_visits hvisits]
    exact Option.map_id'.symm
  | true =>
    obtain ⟨request, response, rfl⟩ := Step.eq_replay_of_visits hvisits
    cases hc : s.chapter? name with
    | none => exact ⟨id, by rw [step, replay_of_none hc, hc]; rfl⟩
    | some c =>
      refine ⟨fun _ => (c.replay request response s.store).chapter.uses, ?_⟩
      rw [step, chapter?_replay_self request response hc]
      rfl

end Frame

/-! ## What steps keep -/

/-- A name has a chapter after steps when it had one before. -/
theorem isSome_chapter?_run (s : Session) (steps : List Step) (name : String) :
    ((s.run steps).chapter? name).isSome = (s.chapter? name).isSome := by
  induction steps generalizing s with
  | nil => rfl
  | cons x steps ih =>
    obtain ⟨uses, huses⟩ := s.exists_uses_step x name
    rw [run, ih, huses, Option.isSome_map]

/-- Steps change no chapter that they do not replay. -/
theorem chapter?_run_of_not_visits {s : Session} {name : String} {steps : List Step}
    (h : ∀ x ∈ steps, x.visits name = false) : (s.run steps).chapter? name = s.chapter? name := by
  induction steps generalizing s with
  | nil => rfl
  | cons x steps ih =>
    rw [List.forall_mem_cons] at h
    rw [run, ih h.2, chapter?_step_of_not_visits h.1]

/-- As long as the chapter with a name is not replayed, the store has the last count that has been
committed to that chapter, or what it had. -/
theorem usesOf?_run {s : Session} {name : String} {steps : List Step}
    (h : ∀ x ∈ steps, x.visits name = false) :
    (s.run steps).store.usesOf? name =
      countAfter (some name) (s.store.usesOf? name) (s.commits steps) := by
  induction steps generalizing s with
  | nil => rfl
  | cons x steps ih =>
    rw [List.forall_mem_cons] at h
    rw [run, ih h.2, usesOf?_step h.1, commits, countAfter_append]

end Session

end Playback
