import Playback.Proofs.Session.Steps

/-!
# Use counts in step

The use count of a chapter is kept twice: by the chapter, for its own commands, and by the store,
for commands that name the chapter. The two are brought in step when a visit starts and when it
ends. In between a command may commit one of them alone, and so may a visit of another chapter,
which has no access to the chapter's own count. The main result tells when the two are in step, in
every session and at every moment of it.
-/

namespace Playback

namespace Session

/-! ## In step -/

/-- The store keeps the use count under the name of a chapter that the chapter keeps itself. -/
def InStep (s : Session) (name : String) : Prop :=
  (s.chapter? name).isSome = true ∧ s.store.usesOf? name = s.ownUses? name

instance (s : Session) (name : String) : Decidable (s.InStep name) :=
  inferInstanceAs (Decidable (_ ∧ _))

/-- In these steps a chapter has been replayed, and since then nothing has been committed to it by
its name. -/
def Settled (s : Session) (name : String) (steps : List Step) : Prop :=
  (s.chapter? name).isSome = true ∧
    ∃ before request response after, steps = before ++ .replay name request response :: after ∧
      ∀ commit ∈ ((s.run before).replay name request response).commits after,
        commit.chapter ≠ some name

/-- The session as it is during a visit of one of its chapters. -/
def during (s : Session) (c : Chapter) (v : Visit) : Session :=
  s.update { c with uses := v.uses } v.store

/-- The counts of a chapter are in step when the store has its own one. -/
theorem inStep_of_uses {s : Session} {name : String} {c : Chapter} (h : s.chapter? name = some c)
    (huses : s.store.usesOf? name = some c.uses) : s.InStep name := by
  refine ⟨by rw [h]; rfl, ?_⟩
  rw [huses, ownUses?, h]
  rfl

/-! ## Between visits -/

/-- The replay of a chapter brings its counts in step. -/
theorem inStep_replay_self {s : Session} {name : String}
    (h : (s.chapter? name).isSome = true) (request : Request) (response : Response) :
    (s.replay name request response).InStep name := by
  obtain ⟨c, hc⟩ := Option.isSome_iff_exists.1 h
  have hname : c.name = name := name_of_chapter? hc
  have hself := Chapter.usesOf?_replay_self request response s.store c
  refine inStep_of_uses (chapter?_replay_self request response hc) ?_
  rw [store_replay request response hc]
  rwa [hname] at hself

/-- A step that commits nothing to a chapter by its name leaves its counts in step. -/
theorem inStep_step {s : Session} {name : String} {x : Step} (h : s.InStep name)
    (hx : ∀ commit ∈ s.stepCommits x, commit.chapter ≠ some name) : (s.step x).InStep name := by
  obtain ⟨hsome, huses⟩ := h
  cases hvisits : x.visits name with
  | false =>
    rw [InStep, ownUses?, chapter?_step_of_not_visits hvisits, usesOf?_step hvisits,
      countAfter_of_forall_ne hx]
    exact ⟨hsome, huses⟩
  | true =>
    obtain ⟨request, response, rfl⟩ := Step.eq_replay_of_visits hvisits
    exact inStep_replay_self hsome request response

/-- Steps that commit nothing to a chapter by its name leave its counts in step. -/
theorem inStep_run {s : Session} {name : String} {steps : List Step} (h : s.InStep name)
    (hsteps : ∀ commit ∈ s.commits steps, commit.chapter ≠ some name) :
    (s.run steps).InStep name := by
  induction steps generalizing s with
  | nil => exact h
  | cons x steps ih =>
    rw [commits, List.forall_mem_append] at hsteps
    exact ih (inStep_step h hsteps.1) hsteps.2

/-- Counts that are settled are in step. -/
theorem inStep_of_settled {s : Session} {name : String} {steps : List Step}
    (h : s.Settled name steps) : (s.run steps).InStep name := by
  obtain ⟨hsome, before, request, response, after, rfl, hafter⟩ := h
  have hreplayed : ((s.run before).replay name request response).InStep name := by
    refine inStep_replay_self ?_ request response
    rw [isSome_chapter?_run]
    exact hsome
  rw [run_append]
  change (((s.run before).replay name request response).run after).InStep name
  exact inStep_run hreplayed hafter

/-! ## During a visit -/

section During

variable {s : Session} {c : Chapter} (m : c.Moment) (request : Request) (response : Response)

/-- During a visit the own use count of the chapter is the last one that has been committed without
a name. -/
theorem ownUses?_during :
    (s.during c (m.visit request response s.store)).ownUses? c.name =
      countAfter none (some (Text.nextCount c.uses)) (m.commits request response s.store) := by
  have hown := m.usesOf?_visit request response s.store none
  rw [Chapter.usesOf?_begin_own] at hown
  rw [ownUses?, during, chapter?_update, if_pos rfl]
  exact hown

/-- During a visit the use count under a name is the last one that has been committed to it. -/
theorem usesOf?_during (name : String) :
    (s.during c (m.visit request response s.store)).store.usesOf? name =
      countAfter (some name)
        (if name = c.name then some (Text.nextCount c.uses) else s.store.usesOf? name)
        (m.commits request response s.store) := by
  have hnamed := m.usesOf?_visit request response s.store (some name)
  rw [Chapter.usesOf?_begin_named] at hnamed
  exact hnamed

/-- The counts of the visited chapter are in step as long as nothing has been committed to it. -/
theorem inStep_during_self
    (h : ∀ commit ∈ m.commits request response s.store,
      commit.chapter ≠ none ∧ commit.chapter ≠ some c.name) :
    (s.during c (m.visit request response s.store)).InStep c.name := by
  refine ⟨?_, ?_⟩
  · rw [during, chapter?_update, if_pos rfl]
    rfl
  · rw [ownUses?_during, usesOf?_during, if_pos rfl,
      countAfter_of_forall_ne fun commit hcommit => (h commit hcommit).1,
      countAfter_of_forall_ne fun commit hcommit => (h commit hcommit).2]

/-- The counts of another chapter stay in step during a visit as long as nothing has been committed
to it. -/
theorem inStep_during_of_ne {name : String} (hname : name ≠ c.name) (hstep : s.InStep name)
    (h : ∀ commit ∈ m.commits request response s.store, commit.chapter ≠ some name) :
    (s.during c (m.visit request response s.store)).InStep name := by
  have hchapter : (s.during c (m.visit request response s.store)).chapter? name =
      s.chapter? name := (chapter?_update _ _ _ _).trans (if_neg hname)
  rw [InStep, ownUses?, hchapter, usesOf?_during, if_neg hname, countAfter_of_forall_ne h]
  exact hstep

end During

/-! ## Everywhere in a session -/

/-- What holds of the use counts of a session after steps, and throughout the next replay. -/
structure CountsInStep (s : Session) (steps : List Step) : Prop where
  /-- Between visits the counts of a chapter that has been replayed are in step, unless another
  chapter has committed a count to it since. -/
  between : ∀ name, s.Settled name steps → (s.run steps).InStep name
  /-- A visit starts with both counts of its chapter one above the own count. -/
  start : ∀ name c, (s.run steps).chapter? name = some c → ∀ request response,
    ((s.run steps).during c (c.begin request response (s.run steps).store)).InStep name ∧
      (c.begin request response (s.run steps).store).uses = c.uses + 1
  /-- During a visit the counts of its chapter are in step until a command commits one of them. -/
  visited : ∀ name c, (s.run steps).chapter? name = some c →
    ∀ (m : c.Moment) (request : Request) (response : Response),
      (∀ commit ∈ m.commits request response (s.run steps).store,
        commit.chapter ≠ none ∧ commit.chapter ≠ some name) →
      ((s.run steps).during c (m.visit request response (s.run steps).store)).InStep name
  /-- During a visit the counts of another chapter that were in step are so until a command commits
  one to it. -/
  others : ∀ name c, (s.run steps).chapter? name = some c →
    ∀ (m : c.Moment) (request : Request) (response : Response), ∀ other ≠ name,
      s.Settled other steps →
      (∀ commit ∈ m.commits request response (s.run steps).store, commit.chapter ≠ some other) →
      ((s.run steps).during c (m.visit request response (s.run steps).store)).InStep other
  /-- During a visit both counts are read as they have been committed last. -/
  committed : ∀ name c, (s.run steps).chapter? name = some c →
    ∀ (m : c.Moment) (request : Request) (response : Response),
      ((s.run steps).during c (m.visit request response (s.run steps).store)).ownUses? name =
          countAfter none (some (c.uses + 1)) (m.commits request response (s.run steps).store) ∧
        ∀ other,
          ((s.run steps).during c
              (m.visit request response (s.run steps).store)).store.usesOf? other =
            countAfter (some other)
              (if other = name then some (c.uses + 1) else (s.run steps).store.usesOf? other)
              (m.commits request response (s.run steps).store)
  /-- A visit ends with the counts of its chapter in step. Where none has been committed to it by
  its name, they are the last one that has been committed without a name. -/
  finish : ∀ name c, (s.run steps).chapter? name = some c → ∀ request response,
    ((s.run steps).replay name request response).InStep name ∧
      ((∀ commit ∈ c.commits request response (s.run steps).store, commit.chapter ≠ some name) →
        ((s.run steps).replay name request response).ownUses? name =
          countAfter none (some (c.uses + 1)) (c.commits request response (s.run steps).store))
  /-- As long as a chapter is not visited its own count is kept, and the store has the last count
  that other chapters have committed to it. -/
  kept : ∀ name more, (∀ x ∈ more, x.visits name = false) →
    (s.run (steps ++ more)).ownUses? name = (s.run steps).ownUses? name ∧
      (s.run (steps ++ more)).store.usesOf? name =
        countAfter (some name) ((s.run steps).store.usesOf? name) ((s.run steps).commits more)

/-- In every session whose counts are below the largest one, the two counts of a chapter are in step
from each of its visits on, but for the time between a commit to one of them and the end of its
visit, or the start of the next one. -/
theorem countsInStep (s : Session) (steps : List Step) (hmax : (s.run steps).BelowMax) :
    s.CountsInStep steps where
  between := fun name => inStep_of_settled
  start := by
    intro name c hc request response
    have hnext : Text.nextCount c.uses = c.uses + 1 := nextCount_of_belowMax hmax hc
    obtain rfl : c.name = name := name_of_chapter? hc
    refine ⟨inStep_of_uses ((chapter?_update _ _ _ _).trans (if_pos rfl)) ?_, hnext⟩
    exact (Chapter.usesOf?_begin_named request response _ c c.name).trans (if_pos rfl)
  visited := by
    intro name c hc m request response h
    obtain rfl : c.name = name := name_of_chapter? hc
    exact inStep_during_self m request response h
  others := by
    intro name c hc m request response other hother hsettled h
    obtain rfl : c.name = name := name_of_chapter? hc
    exact inStep_during_of_ne m request response hother (inStep_of_settled hsettled) h
  committed := by
    intro name c hc m request response
    have hnext : Text.nextCount c.uses = c.uses + 1 := nextCount_of_belowMax hmax hc
    obtain rfl : c.name = name := name_of_chapter? hc
    rw [← hnext]
    exact ⟨ownUses?_during m request response, usesOf?_during m request response⟩
  finish := by
    intro name c hc request response
    refine ⟨inStep_replay_self (by rw [hc]; rfl) request response, fun _ => ?_⟩
    rw [ownUses?, chapter?_replay_self request response hc, ← nextCount_of_belowMax hmax hc]
    exact Chapter.uses_replay request response _ c
  kept := by
    intro name more h
    rw [run_append, ownUses?, ownUses?, chapter?_run_of_not_visits h]
    exact ⟨rfl, usesOf?_run h⟩

end Session

/-! ## Out of step -/

/-- A chapter that reads its use count, sets it, and then reads it under its name. -/
def Chapter.settingItself : Chapter :=
  ⟨"login", 0, [["use->%start", "use->\x7b10\x7d", "use[login]->%named"]]⟩

/-- A chapter that sets the use count of another one. -/
def Chapter.settingAnother : Chapter :=
  ⟨"logout", 0, [["use[login]->\x7b5\x7d"]]⟩

/-- The moment at which the first of them has set its use count. -/
def Chapter.settingItself.afterSetting : Chapter.settingItself.Moment where
  ran := []
  place := 0
  done := [
    ⟨none, .uses none none, some (.extract ⟨.testBounds, "start", false, false, false, .none⟩)⟩,
    ⟨none, .uses none none, some (.replace ⟨"10"⟩)⟩]
  ahead := [
    ⟨none, .uses (some "login") none,
      some (.extract ⟨.testBounds, "named", false, false, false, .none⟩)⟩]
  later := []
  compiled_eq := by decide +kernel

/-- The session of these two chapters. -/
def Session.settingCounts : Session :=
  .ofChapters [.settingItself, .settingAnother] .empty

/-- The next visit of the first chapter brings its counts in step again. -/
theorem Session.countsInStep_settingCounts :
    (Session.settingCounts.run
        [.replay "login" .empty .empty, .replay "logout" .empty .empty,
          .replay "login" .empty .empty, .clearLocal]).BelowMax ∧
      Session.settingCounts.Settled "login"
        [.replay "login" .empty .empty, .replay "logout" .empty .empty,
          .replay "login" .empty .empty, .clearLocal] ∧
      (Session.settingCounts.run
        [.replay "login" .empty .empty, .replay "logout" .empty .empty,
          .replay "login" .empty .empty, .clearLocal]).InStep "login" := by
  have hsettled : Session.settingCounts.Settled "login"
      [.replay "login" .empty .empty, .replay "logout" .empty .empty,
        .replay "login" .empty .empty, .clearLocal] :=
    ⟨by decide +kernel, [.replay "login" .empty .empty, .replay "logout" .empty .empty], .empty,
      .empty, [.clearLocal], rfl, fun _ hcommit => nomatch hcommit⟩
  have hmax : (Session.settingCounts.run
      [.replay "login" .empty .empty, .replay "logout" .empty .empty,
        .replay "login" .empty .empty, .clearLocal]).BelowMax := by decide +kernel
  exact ⟨hmax, hsettled, (Session.countsInStep _ _ hmax).between "login" hsettled⟩

/-- A chapter that sets its own count is out of step for the rest of its visit. It is out of step
again when another chapter has set its count, and its next visit counts on from its own one. -/
theorem Session.not_inStep_settingCounts :
    ¬ (Session.settingCounts.during Chapter.settingItself
        (Chapter.settingItself.afterSetting.visit .empty .empty .empty)).InStep "login" ∧
      ¬ (Session.settingCounts.run
        [.replay "login" .empty .empty, .replay "logout" .empty .empty]).InStep "login" ∧
      (Session.settingCounts.run
        [.replay "login" .empty .empty, .replay "logout" .empty .empty]).store.usesOf? "login" =
          some 5 ∧
      (Session.settingCounts.run
        [.replay "login" .empty .empty, .replay "logout" .empty .empty,
          .replay "login" .empty .empty]).store.get? .testBounds "start" = some "11" := by
  decide +kernel

end Playback
