import Playback.Chapter

/-!
# Sessions

A session replays chapters, one visit after the other, on one store. A chapter keeps its own use
count from one visit to the next, and the store keeps a count for it under its name.
-/

namespace Playback

/-- The chapters of a session and the store that their visits share. -/
structure Session where
  /-- The chapters by their names. -/
  chapters : Table Chapter
  /-- Every chapter is kept under its own name. -/
  named : ∀ name c, chapters.get? name = some c → c.name = name
  /-- The variables, and the use counts of chapters by name. -/
  store : Store

namespace Session

/-- The session without chapters. -/
def start (store : Store) : Session where
  chapters := .empty
  named := by
    intro name c hc
    cases hc
  store := store

/-- The chapter with a name. -/
def chapter? (s : Session) (name : String) : Option Chapter :=
  s.chapters.get? name

/-- The use count that the chapter with a name keeps itself. -/
def ownUses? (s : Session) (name : String) : Option Int :=
  (s.chapter? name).map (·.uses)

/-- The session with a chapter, in place of the one that had its name, and a store. -/
def update (s : Session) (c : Chapter) (store : Store) : Session where
  chapters := s.chapters.put c.name c
  named := by
    intro name d hd
    rw [Table.get?_put] at hd
    split at hd
    · rename_i hname
      cases hd
      exact hname.symm
    · exact s.named name d hd
  store := store

/-- The session with chapters and a store. A later chapter replaces an earlier one with its name. -/
def ofChapters (chapters : List Chapter) (store : Store) : Session :=
  chapters.foldl (fun s c => s.update c store) (start store)

/-- The session after the chapter with a name has been replayed, if there is one. -/
def replay (s : Session) (name : String) (request : Request) (response : Response) : Session :=
  match s.chapter? name with
  | some c =>
    let replayed := c.replay request response s.store
    s.update replayed.chapter replayed.store
  | none => s

/-- What is done in a session. -/
inductive Step where
  /-- Replay a chapter with an exchange. -/
  | replay (chapter : String) (request : Request) (response : Response)
  /-- Drop the variables of the last visit. -/
  | beginChapter
  /-- Drop the local variables. -/
  | clearLocal
  /-- Set a variable. -/
  | set (scope : Scope) (name value : String)

/-- The session after a step. -/
def step (s : Session) : Step → Session
  | .replay chapter request response => s.replay chapter request response
  | .beginChapter => { s with store := s.store.beginChapter }
  | .clearLocal => { s with store := s.store.clearLocal }
  | .set scope name value => { s with store := s.store.set scope name value }

/-- The session after several steps. -/
def run (s : Session) : List Step → Session
  | [] => s
  | step :: steps => (s.step step).run steps

/-- The chapter with a name has that name. -/
theorem name_of_chapter? {s : Session} {name : String} {c : Chapter}
    (h : s.chapter? name = some c) : c.name = name :=
  s.named name c h

/-- Of the chapters only the one with the same name is replaced. -/
@[simp] theorem chapter?_update (s : Session) (c : Chapter) (store : Store) (name : String) :
    (s.update c store).chapter? name = if name = c.name then some c else s.chapter? name :=
  Table.get?_put _ _ _ _

/-- The store is replaced. -/
@[simp] theorem store_update (s : Session) (c : Chapter) (store : Store) :
    (s.update c store).store = store := rfl

/-- A chapter of the session is replayed on its store. -/
theorem replay_of_some {s : Session} {name : String} {c : Chapter}
    (h : s.chapter? name = some c) (request : Request) (response : Response) :
    s.replay name request response =
      s.update (c.replay request response s.store).chapter
        (c.replay request response s.store).store := by
  rw [replay, h]

/-- Nothing is replayed under a name without a chapter. -/
theorem replay_of_none {s : Session} {name : String} (h : s.chapter? name = none)
    (request : Request) (response : Response) : s.replay name request response = s := by
  rw [replay, h]

end Session

end Playback
