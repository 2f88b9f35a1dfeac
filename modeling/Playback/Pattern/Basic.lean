import Playback.Pattern.Reader
import Playback.Pattern.Search

/-!
# Patterns

A pattern keeps the text that it was read from. It finds its first match in a text, or cuts the
whole text into pieces, each of which is a match with the text before it.
-/

namespace Playback

/-- A pattern: a text and its reading. -/
structure Pattern where
  /-- The text of the pattern. -/
  text : String
  /-- The structure that the text describes. -/
  tree : Pattern.Tree
  /-- The structure is the reading of the text. -/
  tree_eq : Pattern.Tree.read text.toList = .ok tree

namespace Pattern

/-- Patterns with the same text are equal. -/
@[ext] theorem ext {p q : Pattern} (h : p.text = q.text) : p = q := by
  obtain ⟨t, a, ha⟩ := p
  obtain ⟨u, b, hb⟩ := q
  obtain rfl : t = u := h
  obtain rfl : a = b := by
    rw [ha] at hb
    exact Except.ok.inj hb
  rfl

instance : DecidableEq Pattern := fun p q =>
  decidable_of_iff (p.text = q.text) ⟨ext, congrArg text⟩

/-- The pattern that a text describes, or why it describes none. -/
def read (text : String) : Except Fault Pattern :=
  match h : Tree.read text.toList with
  | .ok tree => .ok ⟨text, tree, h⟩
  | .error fault => .error fault

/-- The number of groups, the whole match not counted. -/
def groupCount (p : Pattern) : Nat :=
  p.tree.lastGroup

/-- A match with the text that it takes and those that its groups take. -/
structure Match where
  /-- The text of the match. -/
  whole : String
  /-- The texts of the groups; `none` for one that took no part. -/
  groups : List (Option String)
  deriving DecidableEq

namespace Match

/-- The texts of the whole match and of the groups, where a group that took no part is empty. -/
def values (m : Match) : List String :=
  m.whole :: m.groups.map (·.getD "")

/-- The text of the first group that took part, or of the whole match if there is none. -/
def first (m : Match) : String :=
  (m.groups.findSome? id).getD m.whole

end Match

/-- The match that a hit describes in its text. -/
def Hit.toMatch (hit : Hit) (text : List Char) : Match :=
  ⟨String.ofList ((text.drop hit.skipped).take hit.taken), hit.groups⟩

/-- The first match in a text. -/
def find? (p : Pattern) (text : String) : Option Match :=
  (searchProgram p.tree.program p.groupCount none text.toList).map (·.toMatch text.toList)

/-- A match and the text between it and the match before it. -/
structure Piece where
  /-- The text before the match. -/
  gap : String
  /-- The match. -/
  found : Match
  deriving DecidableEq

/-- The pieces of a text and what follows the last of them. -/
structure Cutting where
  /-- The pieces from the start of the text on. -/
  pieces : List Piece
  /-- The text behind the last match. -/
  tail : String
  deriving DecidableEq

/-- The next match in a text. An empty match at its start does not count where another match ended:
then the search goes on one character later. -/
def nextHit? (search : Option Char → List Char → Option Hit) (before : Option Char)
    (ended : Bool) (text : List Char) : Option Hit :=
  match search before text with
  | none => none
  | some hit =>
    if ended && hit.skipped == 0 && hit.taken == 0 then
      match text with
      | [] => none
      | c :: rest => (search (some c) rest).map fun hit => ⟨hit.skipped + 1, hit.taken, hit.groups⟩
    else some hit

/-- Cut a text into pieces by searching again and again. `before` is the character before the text
and `ended` whether a match ended there. Every two steps pass a character, which bounds them. -/
def cutFrom (search : Option Char → List Char → Option Hit) (before : Option Char)
    (ended : Bool) : (fuel : Nat) → List Char → Cutting
  | 0, text => ⟨[], String.ofList text⟩
  | fuel + 1, text =>
    match nextHit? search before ended text with
    | none => ⟨[], String.ofList text⟩
    | some hit =>
      let passed := text.take (hit.skipped + hit.taken)
      let rest := text.drop (hit.skipped + hit.taken)
      let further := cutFrom search (passed.getLast? <|> before) true fuel rest
      ⟨⟨String.ofList (text.take hit.skipped), hit.toMatch text⟩ :: further.pieces, further.tail⟩

/-- The pieces into which the matches of a pattern cut a text. -/
def cut (p : Pattern) (text : String) : Cutting :=
  let program := p.tree.program
  cutFrom (searchProgram program p.groupCount) none false (2 * text.length + 2) text.toList

/-- The matches of a pattern in a text, which do not overlap, in order. -/
def findAll (p : Pattern) (text : String) : List Match :=
  (p.cut text).pieces.map (·.found)

/-- The text with a replacement for every match. -/
def replaceAll (p : Pattern) (text : String) (replacement : Match → String) : String :=
  let cutting := p.cut text
  cutting.pieces.foldr (fun piece rest => piece.gap ++ replacement piece.found ++ rest) cutting.tail

end Pattern

end Playback
