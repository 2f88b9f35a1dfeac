import Playback.Pattern.Basic

/-!
# Findings

What a source yields when a command reads it: the captured values in order, and the groups of the
first match. A source has matched when there is a captured value.
-/

namespace Playback

/-- What a source yields. -/
structure Finding where
  /-- The captured values in order. -/
  captured : List String
  /-- The texts of the first match and of its groups. -/
  groups : List String
  deriving DecidableEq, Repr

namespace Finding

/-- Nothing. -/
def miss : Finding :=
  ⟨[], []⟩

/-- Whether there is a captured value. -/
def matched (f : Finding) : Bool :=
  !f.captured.isEmpty

/-- A source has not matched when nothing is captured. -/
theorem matched_eq_false_iff {f : Finding} : f.matched = false ↔ f.captured = [] := by
  rw [matched, Bool.not_eq_false', List.isEmpty_iff]

/-- The first captured value. -/
def first? (f : Finding) : Option String :=
  f.captured.head?

/-- What matches yield: a value for each, and the groups of the first. -/
def ofMatches (found : List Pattern.Match) : Finding :=
  ⟨found.map (·.first), (found.head?.map (·.values)).getD []⟩

/-- What a list of values yields: all of them, or a value for each in which the pattern matches. -/
def inValues (pattern : Option Pattern) (values : List String) : Finding :=
  match pattern with
  | some pattern => ofMatches (values.filterMap pattern.find?)
  | none => ⟨values, []⟩

/-- What a text yields: itself unless it is empty, or a value for each match in it. -/
def inText (pattern : Option Pattern) (text : String) : Finding :=
  match pattern with
  | some pattern => ofMatches (pattern.findAll text)
  | none => if text.isEmpty then miss else ⟨[text], [text]⟩

end Finding

end Playback
