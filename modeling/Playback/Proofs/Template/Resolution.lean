import Playback.Proofs.Text.Digits
import Playback.Template

/-!
# How placeholders are resolved

The alternatives of a placeholder put their candidates into one list, each alternative its own
behind those of the alternatives before it. A placeholder renders to the first candidate that is
not empty, so that it makes no difference whether a value is missing or empty.
-/

namespace Playback

open Text

/-- The group of a match whose number a name writes, if there is such a group. -/
def numberedGroup? (groups : List String) (name : String) : Option String :=
  (natBelow? (Nat.pow 2 64) name.toList).bind (groups[·]?)

/-- A name writes the number of a group in decimal digits, within 64 bits. -/
theorem numberedGroup?_eq_some_iff {groups : List String} {name text : String} :
    numberedGroup? groups name = some text ↔
      ∃ n, WritesBelow (Nat.pow 2 64) name.toList n ∧ groups[n]? = some text := by
  simp only [numberedGroup?, Option.bind_eq_some_iff, natBelow?_eq_some_iff]

/-- The texts that an alternative offers, the first one first. -/
def Alternative.candidates (s : Store) (groups : List String) : Alternative → List String
  | .literal text => [text]
  | .lookup (some scope) name => (s.get? scope name).toList
  | .lookup none name =>
    (numberedGroup? groups name).toList ++
      [Scope.local, .chapter, .testBounds].filterMap (s.get? · name)

/-- The first text that is not empty. -/
def firstFilled? (texts : List String) : Option String :=
  texts.find? (!·.isEmpty)

/-- A single text that may be missing is found when it is not empty. -/
theorem firstFilled?_toList (text? : Option String) :
    firstFilled? text?.toList = text?.filter (!·.isEmpty) := by
  cases text? with
  | none => rfl
  | some text => rw [firstFilled?, Option.toList_some, List.find?_singleton, Option.filter_some]

theorem firstFilled?_append (first second : List String) :
    firstFilled? (first ++ second) = (firstFilled? first).or (firstFilled? second) :=
  List.find?_append

/-- What is found is not empty. -/
theorem filter_firstFilled? (texts : List String) :
    (firstFilled? texts).filter (!·.isEmpty) = firstFilled? texts := by
  cases h : firstFilled? texts with
  | none => rfl
  | some text => rw [Option.filter_some, if_pos (List.find?_some h)]

/-- Of texts that may be missing the first that is there and is not empty is found. -/
theorem firstFilled?_filterMap (f : α → Option String) (places : List α) :
    firstFilled? (places.filterMap f) =
      places.findSome? fun place => (f place).filter (!·.isEmpty) := by
  induction places with
  | nil => rfl
  | cons place places ih =>
    rw [List.filterMap_cons, List.findSome?_cons, ← ih]
    cases f place with
    | none => rfl
    | some text =>
      dsimp only
      rw [firstFilled?, List.find?_cons, Option.filter_some]
      cases text.isEmpty <;> rfl

/-- The value of a name without a scope is its first candidate that is not empty. -/
theorem Store.resolver_none (s : Store) (groups : List String) (name : String) :
    s.resolver groups none name =
      firstFilled? ((Alternative.lookup none name).candidates s groups) := by
  have hgroup := firstFilled?_toList (numberedGroup? groups name)
  have hscopes : s.resolve name =
      firstFilled? ([Scope.local, .chapter, .testBounds].filterMap (s.get? · name)) :=
    (firstFilled?_filterMap _ _).symm
  rw [Alternative.candidates, firstFilled?_append, hgroup, ← hscopes, Option.or_eq_orElse]
  rfl

/-- The value of an alternative is its first candidate that is not empty. -/
theorem Alternative.value?_eq (s : Store) (groups : List String) (a : Alternative) :
    a.value? (s.resolver groups) = firstFilled? (a.candidates s groups) := by
  rcases a with text | ⟨_ | scope, name⟩
  · exact (firstFilled?_toList (some text)).symm
  · change (s.resolver groups none name).filter _ = _
    rw [s.resolver_none, filter_firstFilled?]
  · exact (firstFilled?_toList (s.get? scope name)).symm

/-- A placeholder renders to the first text that is not empty among the candidates of all its
alternatives, in order, or to nothing. A name without a scope offers the group whose number it
writes before its variables. -/
theorem Template.renderSegment_placeholder (s : Store) (groups : List String)
    (alternatives : List Alternative) :
    renderSegment (s.resolver groups) (.placeholder alternatives) =
        (firstFilled? (alternatives.flatMap (·.candidates s groups))).getD "" ∧
      ∀ name text, numberedGroup? groups name = some text ↔
        ∃ n, WritesBelow (Nat.pow 2 64) name.toList n ∧ groups[n]? = some text := by
  refine ⟨?_, fun name text => numberedGroup?_eq_some_iff⟩
  have hvalue : (fun a : Alternative => a.value? (s.resolver groups)) =
      fun a => firstFilled? (a.candidates s groups) := funext (Alternative.value?_eq s groups)
  rw [firstFilled?, List.find?_flatMap, renderSegment, hvalue]
  rfl

end Playback
