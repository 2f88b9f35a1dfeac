import Playback.Table

/-!
# Variables

Variables live in three scopes, one inside the other. The store also keeps the use counts of the
chapters of a session.
-/

namespace Playback

/-- Where a variable lives. -/
inductive Scope where
  /-- For one run of a sequence. -/
  | local
  /-- For one visit of a chapter. -/
  | chapter
  /-- For a whole test session. -/
  | testBounds
  deriving DecidableEq, Repr

/-- The sign of a scope in commands. -/
def Scope.sign : Scope → List Char
  | .local => []
  | .chapter => ['&']
  | .testBounds => ['%']

/-- A scope and those around it, the innermost first. -/
def Scope.outward : Scope → List Scope
  | .local => [.local, .chapter, .testBounds]
  | .chapter => [.chapter, .testBounds]
  | .testBounds => [.testBounds]

/-- The variables of all scopes and the use counts of chapters. -/
structure Store where
  /-- The variables of the running sequence. -/
  locals : Table String
  /-- The variables of the visited chapter. -/
  chapter : Table String
  /-- The variables of the session. -/
  testBounds : Table String
  /-- The use counts of chapters by their names. -/
  chapterUses : Table Int

namespace Store

/-- The store without variables and counts. -/
def empty : Store :=
  ⟨.empty, .empty, .empty, .empty⟩

/-- The variables of a scope. -/
def scope (s : Store) : Scope → Table String
  | .local => s.locals
  | .chapter => s.chapter
  | .testBounds => s.testBounds

/-- The value of a variable in a scope. -/
def get? (s : Store) (scope : Scope) (name : String) : Option String :=
  (s.scope scope).get? name

/-- The store with a value for a variable of a scope. -/
def set (s : Store) (scope : Scope) (name value : String) : Store :=
  match scope with
  | .local => { s with locals := s.locals.put name value }
  | .chapter => { s with chapter := s.chapter.put name value }
  | .testBounds => { s with testBounds := s.testBounds.put name value }

/-- The value of a variable in a scope or, when `up`, in the innermost scope from there outward
that defines it, with that scope. -/
def lookup (s : Store) (scope : Scope) (name : String) (up : Bool) : Option (Scope × String) :=
  let scopes := if up then scope.outward else [scope]
  scopes.findSome? fun place => (s.get? place name).map (place, ·)

/-- The first value of a variable that is not empty, from the innermost scope outward. -/
def resolve (s : Store) (name : String) : Option String :=
  Scope.local.outward.findSome? fun place => (s.get? place name).filter (!·.isEmpty)

/-- The values of a scope in the order of their names. -/
def values (s : Store) (scope : Scope) : List String :=
  (s.scope scope).values

/-- The use count of a chapter. -/
def usesOf? (s : Store) (chapter : String) : Option Int :=
  s.chapterUses.get? chapter

/-- The store with a use count for a chapter. -/
def setUses (s : Store) (chapter : String) (uses : Int) : Store :=
  { s with chapterUses := s.chapterUses.put chapter uses }

/-- The store after a sequence has ended. -/
def clearLocal (s : Store) : Store :=
  { s with locals := .empty }

/-- The store at the start of a visit: only the session's variables and counts remain. -/
def beginChapter (s : Store) : Store :=
  { s with locals := .empty, chapter := .empty }

/-- Setting a variable changes the variables of its own scope only. -/
@[simp] theorem scope_set (s : Store) (place other : Scope) (name value : String) :
    (s.set place name value).scope other =
      if other = place then (s.scope other).put name value else s.scope other := by
  cases place <;> cases other <;> rfl

/-- Setting a variable changes no use count. -/
@[simp] theorem chapterUses_set (s : Store) (place : Scope) (name value : String) :
    (s.set place name value).chapterUses = s.chapterUses := by
  cases place <;> rfl

/-- A variable after another one, or the same, has been set. -/
theorem get?_set (s : Store) (place place' : Scope) (name name' value : String) :
    (s.set place name value).get? place' name' =
      if place' = place ∧ name' = name then some value else s.get? place' name' := by
  simp only [get?, scope_set]
  split <;> simp_all [Table.get?_put]

/-- Recording a use count changes no variable. -/
@[simp] theorem scope_setUses (s : Store) (chapter : String) (uses : Int) (place : Scope) :
    (s.setUses chapter uses).scope place = s.scope place := by
  cases place <;> rfl

/-- The use count of a chapter after that of another one, or its own, has been recorded. -/
theorem usesOf?_setUses (s : Store) (chapter other : String) (uses : Int) :
    (s.setUses chapter uses).usesOf? other =
      if other = chapter then some uses else s.usesOf? other :=
  Table.get?_put _ _ _ _

/-- The end of a sequence leaves the outer scopes alone. -/
@[simp] theorem scope_clearLocal (s : Store) (place : Scope) :
    s.clearLocal.scope place = if place = .local then .empty else s.scope place := by
  cases place <;> rfl

/-- The start of a visit leaves the variables of the session alone. -/
@[simp] theorem scope_beginChapter (s : Store) (place : Scope) :
    s.beginChapter.scope place = if place = .testBounds then s.scope place else .empty := by
  cases place <;> rfl

end Store

end Playback
