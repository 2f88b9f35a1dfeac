import Playback.Pattern.Basic

/-!
# The parts of a match

A match takes a part of the text in which it is found, and tells of each group of its pattern what
the group took. Where the pattern has no groups the text of the match is all that it tells.
-/

namespace Playback.Pattern

/-- A search tells of each group what it took. -/
theorem length_groups_of_searchProgram {program : Array Instr} {groupCount : Nat}
    {before : Option Char} {text : List Char} {hit : Hit}
    (h : searchProgram program groupCount before text = some hit) :
    hit.groups.length = groupCount := by
  obtain ⟨found, -, rfl⟩ := Option.map_eq_some_iff.1 h
  rw [List.length_map, List.length_range]

/-- What a hit takes stands in its text. -/
theorem Hit.whole_infix (hit : Hit) (text : List Char) :
    (hit.toMatch text).whole.toList <:+: text := by
  rw [toMatch, String.toList_ofList]
  exact (List.take_prefix _ _).isInfix.trans (List.drop_suffix _ _).isInfix

/-- Where no match has ended, the next match is the one that a search meets first. -/
theorem nextHit?_of_not_ended (search : Option Char → List Char → Option Hit)
    (before : Option Char) (text : List Char) :
    nextHit? search before false text = search before text := by
  unfold nextHit?
  cases search before text with
  | none => rfl
  | some hit => rfl

/-- The first of all matches in a text is the first match. -/
theorem head?_findAll (p : Pattern) (text : String) : (p.findAll text).head? = p.find? text := by
  have hnext := nextHit?_of_not_ended (searchProgram p.tree.program p.groupCount) none text.toList
  rw [findAll, cut, cutFrom, hnext, find?]
  cases searchProgram p.tree.program p.groupCount none text.toList with
  | none => rfl
  | some hit => rfl

variable {p : Pattern} {text : String} {m : Match}

/-- The first match in a text tells of each group of the pattern what it took. -/
theorem length_groups_of_find? (h : p.find? text = some m) : m.groups.length = p.groupCount := by
  obtain ⟨hit, hhit, rfl⟩ := Option.map_eq_some_iff.1 h
  exact length_groups_of_searchProgram hhit

/-- The first match in a text is a part of the text. -/
theorem whole_infix_of_find? (h : p.find? text = some m) : m.whole.toList <:+: text.toList := by
  obtain ⟨hit, -, rfl⟩ := Option.map_eq_some_iff.1 h
  exact hit.whole_infix text.toList

/-- Without groups the first text that a match tells is its own. -/
theorem first_of_find? (hgroups : p.groupCount = 0) (h : p.find? text = some m) :
    m.first = m.whole := by
  have hnone : m.groups = [] := List.eq_nil_of_length_eq_zero (by
    rw [length_groups_of_find? h, hgroups])
  rw [Match.first, hnone]
  rfl

end Playback.Pattern
