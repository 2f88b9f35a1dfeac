import Playback.Chapter

/-!
# Fixtures

A fixture describes one visit: a recorded exchange, the state that the visit starts from, and the
sequences of the chapter. It is validated as a whole; lines that do not compile only keep their
sequence from running.
-/

namespace Playback

open Text

/-- A description of one visit. -/
structure Fixture where
  /-- The name of the chapter, if one is given. -/
  chapter : Option String
  /-- The use count of the chapter before the visit. -/
  uses : Int
  /-- The recorded request. -/
  request : Request
  /-- The response before the visit. -/
  response : Response
  /-- The variables of the chapter. -/
  chapterVars : Table String
  /-- The variables of the session. -/
  testBounds : Table String
  /-- The use counts of chapters. -/
  chapterUses : Table Int
  /-- The lines of the sequences. -/
  sequences : List (List String)

/-- What a fixture may not say. -/
inductive Problem where
  /-- The name of the chapter is blank. -/
  | blankChapter
  /-- The use count is negative. -/
  | negativeUses (uses : Int)
  /-- The use count of a chapter is negative. -/
  | negativeChapterUses (chapter : String) (uses : Int)
  deriving DecidableEq, Repr

/-- The wording of a problem. -/
def Problem.message : Problem → String
  | .blankChapter => "chapter: must not be empty"
  | .negativeUses uses => "uses: must not be negative (got " ++ intText uses ++ ")"
  | .negativeChapterUses chapter uses =>
    "chapter_uses." ++ chapter ++ ": must not be negative (got " ++ intText uses ++ ")"

namespace Fixture

/-- The fixture that says nothing. -/
def empty : Fixture :=
  ⟨none, 0, .empty, .empty, .empty, .empty, .empty, []⟩

/-- The name of the chapter. -/
def chapterName (f : Fixture) : String :=
  f.chapter.getD "chapter"

/-- All problems of a fixture: the name, the use count, then the counts in the order of their
chapters. -/
def problems (f : Fixture) : List Problem :=
  (if f.chapter.any isBlankText then [.blankChapter] else []) ++
    (if f.uses < 0 then [.negativeUses f.uses] else []) ++
    f.chapterUses.entries.filterMap fun (chapter, uses) =>
      if uses < 0 then some (.negativeChapterUses chapter uses) else none

/-- A message for every sequence that will not run. -/
def lint (f : Fixture) : List String :=
  f.sequences.zipIdx.filterMap fun (lines, place) =>
    match Sequence.compile lines with
    | .ok _ => none
    | .error fault => some ("sequences[" ++ natText place ++ "]: " ++ fault.message)

/-- The variables and counts before the visit. -/
def store (f : Fixture) : Store :=
  ⟨.empty, f.chapterVars, f.testBounds, f.chapterUses⟩

/-- The chapter before the visit. -/
def toChapter (f : Fixture) : Chapter :=
  ⟨f.chapterName, f.uses, f.sequences⟩

/-- Replay the visit. -/
def replay (f : Fixture) : Replay :=
  f.toChapter.replay f.request f.response f.store

end Fixture

end Playback
