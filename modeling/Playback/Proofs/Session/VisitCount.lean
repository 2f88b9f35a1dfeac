import Playback.Proofs.Session.Steps

/-!
# Counting visits

In a session whose chapters do not replace use counts, the count of a chapter goes up by one with
each of its visits, and the store has that count from the first visit on. Nothing else changes a
count.
-/

namespace Playback

namespace Session

/-- How often the chapter with a name is replayed in steps. -/
def visitCount (name : String) (steps : List Step) : Nat :=
  steps.countP (Step.visits name)

/-- No command that runs in a visit of one of the chapters replaces a use count. -/
def LeavesUses (s : Session) : Prop :=
  ∀ name c, s.chapter? name = some c → c.leavesUses = true

/-- With the replays in these steps, no chapter's use count goes beyond the largest count. -/
def CountsFit (s : Session) (steps : List Step) : Prop :=
  ∀ entry ∈ s.chapters.entries, entry.2.uses + visitCount entry.1 steps ≤ Text.maxCount

instance (s : Session) (steps : List Step) : Decidable (s.CountsFit steps) :=
  inferInstanceAs (Decidable (∀ entry ∈ s.chapters.entries,
    entry.2.uses + visitCount entry.1 steps ≤ Text.maxCount))

/-- The counts of a session when another one has become of it in these steps. -/
structure CountsVisits (s t : Session) (steps : List Step) : Prop where
  /-- Of the chapters only the use counts have changed, each by the number of replays. -/
  own : ∀ name, t.chapter? name =
    (s.chapter? name).map fun c => { c with uses := c.uses + visitCount name steps }
  /-- The store has the use count of every chapter that has been replayed. -/
  shared : ∀ name c, s.chapter? name = some c → 0 < visitCount name steps →
    t.store.usesOf? name = some (c.uses + visitCount name steps)
  /-- Under all other names the store has what it had. -/
  others : ∀ name, s.chapter? name = none ∨ visitCount name steps = 0 →
    t.store.usesOf? name = s.store.usesOf? name

/-! ## Chapters that leave use counts alone -/

theorem leavesUses_start (store : Store) : (start store).LeavesUses := by
  intro name c hc
  cases hc

/-- Use counts are left alone with one chapter more that leaves them alone. -/
theorem leavesUses_update {s : Session} (h : s.LeavesUses) {c : Chapter}
    (hc : c.leavesUses = true) (store : Store) : (s.update c store).LeavesUses := by
  intro name d hd
  rw [chapter?_update] at hd
  split at hd
  · cases hd
    exact hc
  · exact h name d hd

/-- Steps do not change the commands of the chapters. -/
theorem leavesUses_step {s : Session} (h : s.LeavesUses) (x : Step) : (s.step x).LeavesUses := by
  intro name d hd
  obtain ⟨uses, huses⟩ := s.exists_uses_step x name
  rw [huses] at hd
  obtain ⟨c, hc, rfl⟩ := Option.map_eq_some_iff.1 hd
  exact h name c hc

/-- Chapters that leave use counts alone commit none in a step. -/
theorem stepCommits_eq_nil {s : Session} (h : s.LeavesUses) (x : Step) : s.stepCommits x = [] := by
  cases x with
  | replay name request response =>
    rw [stepCommits]
    cases hc : s.chapter? name with
    | none => rfl
    | some c => exact Chapter.commits_eq_nil (h name c hc) request response s.store
  | beginChapter => rfl
  | clearLocal => rfl
  | set scope key value => rfl

theorem visitCount_append (name : String) (first second : List Step) :
    visitCount name (first ++ second) = visitCount name first + visitCount name second :=
  List.countP_append

theorem visitCount_singleton (name : String) (x : Step) :
    visitCount name [x] = if x.visits name = true then 1 else 0 :=
  List.countP_singleton

/-- A replay of a chapter that leaves use counts alone changes its own count to the next one, and
nothing else of it. -/
theorem chapter_replay {c : Chapter} (h : c.leavesUses = true) (request : Request)
    (response : Response) (store : Store) :
    (c.replay request response store).chapter = { c with uses := Text.nextCount c.uses } := by
  have hcounted := Chapter.uses_replay request response store c
  rw [Chapter.commits_eq_nil h] at hcounted
  have huses : (c.replay request response store).chapter.uses = Text.nextCount c.uses :=
    Option.some.inj hcounted
  rw [← huses]
  rfl

/-- Where the counts fit, so does that of each chapter with its replays. -/
theorem CountsFit.le {s : Session} {steps : List Step} (h : s.CountsFit steps) {name : String}
    {c : Chapter} (hc : s.chapter? name = some c) :
    c.uses + visitCount name steps ≤ Text.maxCount :=
  h (name, c) (Table.mem_entries_iff.2 hc)

/-- A replay changes the use count of its chapter to one more if the counts fit. -/
theorem chapter_replay_of_fit {s : Session} (h : s.LeavesUses) {name : String} {c : Chapter}
    (hc : s.chapter? name = some c) {request : Request} {response : Response}
    (hfit : s.CountsFit [.replay name request response]) :
    (c.replay request response s.store).chapter = { c with uses := c.uses + 1 } := by
  have hle := hfit.le hc
  have hone : visitCount name [.replay name request response] = 1 := by
    rw [visitCount_singleton]
    simp [Step.visits]
  have hlt : c.uses < Text.maxCount := by omega
  rw [chapter_replay (h name c hc), Text.nextCount_of_lt hlt]

/-- A step counts the visit that it makes. -/
theorem countsVisits_step {s : Session} (h : s.LeavesUses) {x : Step} (hfit : s.CountsFit [x]) :
    s.CountsVisits (s.step x) [x] where
  own := by
    intro name
    rw [visitCount_singleton]
    cases hvisits : x.visits name with
    | false =>
      rw [chapter?_step_of_not_visits hvisits]
      simp
    | true =>
      obtain ⟨request, response, rfl⟩ := Step.eq_replay_of_visits hvisits
      cases hc : s.chapter? name with
      | none => rw [step, replay_of_none hc, hc, Option.map_none]
      | some c =>
        rw [step, chapter?_replay_self request response hc, chapter_replay_of_fit h hc hfit]
        rfl
  shared := by
    intro name c hc hvisited
    rw [visitCount_singleton] at hvisited ⊢
    cases hvisits : x.visits name with
    | false => simp [hvisits] at hvisited
    | true =>
      obtain ⟨request, response, rfl⟩ := Step.eq_replay_of_visits hvisits
      have hname : c.name = name := name_of_chapter? hc
      have hself := Chapter.usesOf?_replay_self request response s.store c
      rw [chapter_replay_of_fit h hc hfit, hname] at hself
      rw [step, store_replay request response hc, hself]
      rfl
  others := by
    intro name hname
    rw [visitCount_singleton] at hname
    cases hvisits : x.visits name with
    | false =>
      rw [usesOf?_step hvisits, stepCommits_eq_nil h]
      rfl
    | true =>
      obtain ⟨request, response, rfl⟩ := Step.eq_replay_of_visits hvisits
      have hnone : s.chapter? name = none := by simpa [hvisits] using hname
      rw [step, replay_of_none hnone]

/-! ## Sessions -/

namespace CountsVisits

/-- Without steps nothing changes. -/
theorem refl (s : Session) : s.CountsVisits s [] where
  own := by
    intro name
    simp [visitCount]
  shared := by
    intro name c hc hvisited
    cases hvisited
  others := fun name _ => rfl

/-- Visits are counted on from one session to the next. -/
theorem trans {s t u : Session} {first second : List Step} (h : s.CountsVisits t first)
    (h' : t.CountsVisits u second) : s.CountsVisits u (first ++ second) where
  own := by
    intro name
    rw [h'.own, h.own, visitCount_append, Option.map_map]
    congr 1
    funext c
    simp [Int.add_assoc]
  shared := by
    intro name c hc hvisited
    have hc' : t.chapter? name = some { c with uses := c.uses + visitCount name first } := by
      rw [h.own, hc]
      rfl
    rw [visitCount_append] at hvisited ⊢
    -- the last visit decides which of the two runs has recorded the count
    rcases Nat.eq_zero_or_pos (visitCount name second) with hzero | hpos
    · rw [h'.others name (.inr hzero), hzero]
      exact h.shared name c hc (by omega)
    · rw [h'.shared name _ hc' hpos]
      simp [Int.add_assoc]
  others := by
    intro name hname
    rw [visitCount_append] at hname
    have hfirst : s.chapter? name = none ∨ visitCount name first = 0 :=
      hname.imp_right Nat.eq_zero_of_add_eq_zero_right
    have hsecond : t.chapter? name = none ∨ visitCount name second = 0 := by
      rw [h.own, Option.map_eq_none_iff]
      exact hname.imp_right Nat.eq_zero_of_add_eq_zero_left
    rw [h'.others name hsecond, h.others name hfirst]

end CountsVisits

/-- Counts that fit do so up to any step, and from there on. -/
theorem CountsFit.step {s : Session} {x : Step} {steps : List Step} (h : s.CountsFit (x :: steps))
    (hleaves : s.LeavesUses) : s.CountsFit [x] ∧ (s.step x).CountsFit steps := by
  have happend (name : String) :
      visitCount name (x :: steps) = visitCount name [x] + visitCount name steps :=
    visitCount_append name [x] steps
  have hfirst : s.CountsFit [x] := by
    intro entry hentry
    have hle := h entry hentry
    rw [happend] at hle
    omega
  refine ⟨hfirst, fun entry hentry => ?_⟩
  obtain ⟨name, d⟩ := entry
  have hd : (s.step x).chapter? name = some d := Table.mem_entries_iff.1 hentry
  rw [(countsVisits_step hleaves hfirst).own] at hd
  obtain ⟨c, hc, rfl⟩ := Option.map_eq_some_iff.1 hd
  have hle := h.le hc
  rw [happend] at hle
  dsimp only
  omega

/-- Whatever is done in a session whose chapters do not replace use counts, each chapter counts its
visits as far as counts go, and the store has the count of each chapter that has been visited. -/
theorem countsVisits_run (s : Session) (h : s.LeavesUses) (steps : List Step)
    (hfit : s.CountsFit steps) : s.CountsVisits (s.run steps) steps := by
  induction steps generalizing s with
  | nil => exact .refl s
  | cons x steps ih =>
    obtain ⟨hfirst, hrest⟩ := hfit.step h
    exact (countsVisits_step h hfirst).trans (ih (s.step x) (leavesUses_step h x) hrest)

end Session

/-- A chapter that keeps its use count in a variable of the session. -/
def Chapter.noting : Chapter :=
  ⟨"login", 3, [["?use:\x7b>3\x7d->%visits"]]⟩

/-- A chapter that reads the use count of another one. -/
def Chapter.looking : Chapter :=
  ⟨"logout", 0, [["use[login]->&seen"], ["use->\x7b"]]⟩

/-- The session of these two chapters. -/
def Session.notingCounts : Session :=
  .ofChapters [.noting, .looking] .empty

/-- Neither of the two chapters replaces a use count. -/
theorem Session.leavesUses_notingCounts : Session.notingCounts.LeavesUses :=
  leavesUses_update
    (leavesUses_update (leavesUses_start .empty) (by decide +kernel) .empty) (by decide +kernel)
    .empty

/-- Two visits of the first chapter, and between them one of the second. -/
def Session.notingSteps : List Session.Step := [
  .replay "login" .empty .empty, .clearLocal, .beginChapter,
  .replay "logout" .empty .empty, .set .chapter "seen" "", .replay "login" .empty .empty]

/-- The visits of both chapters are counted in both places. -/
theorem Session.countsVisits_notingSteps :
    Session.notingCounts.LeavesUses ∧ Session.notingCounts.CountsFit Session.notingSteps ∧
      Session.notingCounts.CountsVisits (Session.notingCounts.run Session.notingSteps)
        Session.notingSteps := by
  have hfit : Session.notingCounts.CountsFit Session.notingSteps := by decide +kernel
  exact ⟨Session.leavesUses_notingCounts, hfit,
    Session.countsVisits_run Session.notingCounts Session.leavesUses_notingCounts
      Session.notingSteps hfit⟩

end Playback
