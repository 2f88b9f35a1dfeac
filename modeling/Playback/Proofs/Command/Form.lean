import Playback.Pattern.Basic
import Playback.Proofs.Command.ReadBack

/-!
# The form of a line

Which lines have the form of a command, and how such a line is taken apart, is told here without
reading it: the line is the text of a legible shape. A match body may contain what could end it, so
that a line can be the text of several shapes. The one with the shortest match body is its form, and
is the shape that the line is read as.

The form of lines can be written as a pattern too. The named parts of a line are its groups, which
examples show on lines where the shortest match body and the conditions on counts matter.
-/

namespace Playback

/-- The length of the match body. -/
def Shape.bodyLength (shape : Shape) : Nat :=
  (shape.source.body?.getD []).length

/-- A shape is the form of a line: a legible shape with this text, of all such shapes one with the
shortest match body. -/
structure Shape.IsFormOf (shape : Shape) (line : List Char) : Prop where
  /-- The texts of the shape can stand at their places. -/
  legible : shape.Legible
  /-- The line is the text of the shape. -/
  chars_eq : shape.chars = line
  /-- No legible shape with this text has a shorter match body. -/
  shortest : ∀ other : Shape, other.Legible → other.chars = line →
    shape.bodyLength ≤ other.bodyLength

/-- Where a body ends and an action follows, this end is read or an earlier one. -/
theorem readBody_shortest {body : List Char} {action : Option ActionShape} (hline : '\n' ∉ body)
    (haction : ∀ a ∈ action, a.Legible) :
    ∃ found behind, readBody (body ++ '}' :: actionChars action) = some (found, behind) ∧
      ((found, behind) = (body, action) ∨ found.length < body.length) := by
  induction body with
  | nil =>
    refine ⟨[], action, ?_, .inl rfl⟩
    rw [List.nil_append, readBody, if_neg (by decide), if_pos rfl, readAction_chars haction]
  | cons c body ih =>
    rw [List.mem_cons, not_or] at hline
    obtain ⟨found, behind, hread, hfound⟩ := ih hline.2
    rw [List.cons_append, readBody, if_neg fun he => hline.1 he.symm, hread]
    -- the body goes on behind `c`, unless `c` ends it and an action follows already
    cases hend : if c = '}' then readAction (body ++ '}' :: actionChars action) else none with
    | some a => exact ⟨[], a, rfl, .inr (Nat.zero_lt_succ _)⟩
    | none =>
      refine ⟨c :: found, behind, rfl, ?_⟩
      rcases hfound with heq | hlt
      · cases heq
        exact .inl rfl
      · exact .inr (Nat.succ_lt_succ hlt)

/-- What is read behind a source is the match body and the action that stand there, or a match body
that is shorter. -/
theorem readMatch_shortest {body : Option (List Char)} {action : Option ActionShape}
    (hline : ∀ b ∈ body, '\n' ∉ b) (haction : ∀ a ∈ action, a.Legible) :
    ∃ found behind,
      (∀ name, readMatch ((braceLayout name body).chars ++ actionChars action) =
        some (found, behind)) ∧
      ((found, behind) = (body, action) ∨ (found.getD []).length < (body.getD []).length) := by
  cases body with
  | none =>
    exact ⟨none, action, readMatch_chars (by simp) (by simp) haction, .inl rfl⟩
  | some body =>
    obtain ⟨found, behind, hread, hfound⟩ := readBody_shortest (hline body rfl) haction
    refine ⟨some found, behind, ?_, ?_⟩
    · intro name
      have hchars : (braceLayout name (some body)).chars ++ actionChars action =
          ':' :: '{' :: (body ++ '}' :: actionChars action) := by
        simp [braceLayout]
      rw [hchars, readMatch, hread]
      rfl
    · rcases hfound with heq | hlt
      · cases heq
        exact .inl rfl
      · exact .inr hlt

namespace Shape

variable {shape : Shape} {line : List Char}

/-- The text of a legible shape is read as that shape, or as one with a shorter match body. -/
theorem read?_shortest (h : shape.Legible) :
    ∃ found, Shape.read? shape.chars = some found ∧
      (found = shape ∨ found.bodyLength < shape.bodyLength) := by
  obtain ⟨body, behind, hmatch, hshortest⟩ := readMatch_shortest h.source.line h.action
  refine ⟨_, Shape.read?_of_match h hmatch, ?_⟩
  rcases hshortest with heq | hlt
  · cases heq
    left
    rw [SourceShape.withBody_body?]
  · right
    obtain ⟨gate, source, action⟩ := shape
    cases source with
    | exchange | «variable» => exact hlt
    | uses => exact absurd hlt (Nat.not_lt_zero _)

/-- A line is read as its form. -/
theorem read?_eq_some_iff : Shape.read? line = some shape ↔ shape.IsFormOf line := by
  constructor
  · intro hread
    obtain ⟨hchars, hlegible⟩ := Shape.chars_of_read? hread
    refine ⟨hlegible, hchars, fun other hother hline => ?_⟩
    obtain ⟨found, hfound, hshortest⟩ := read?_shortest hother
    rw [hline, hread, Option.some_inj] at hfound
    rw [hfound]
    rcases hshortest with rfl | hlt
    · exact Nat.le_refl _
    · exact Nat.le_of_lt hlt
  · rintro ⟨hlegible, rfl, hshortest⟩
    obtain ⟨found, hfound, hother⟩ := read?_shortest hlegible
    rcases hother with rfl | hlt
    · exact hfound
    · obtain ⟨hchars, hread⟩ := Shape.chars_of_read? hfound
      have hle := hshortest found hread hchars
      exact absurd hlt (Nat.not_lt.2 hle)

/-- A line is not read when it is the text of no legible shape. -/
theorem read?_eq_none_iff :
    Shape.read? line = none ↔ ∀ shape : Shape, shape.Legible → shape.chars ≠ line := by
  constructor
  · rintro hnone shape hlegible rfl
    obtain ⟨found, hfound, -⟩ := read?_shortest hlegible
    rw [hnone] at hfound
    cases hfound
  · intro h
    refine Option.eq_none_iff_forall_ne_some.2 fun shape hread => ?_
    obtain ⟨hchars, hlegible⟩ := Shape.chars_of_read? hread
    exact h shape hlegible hchars

end Shape

/-! ## The pattern of command lines -/

namespace Grammar

/-- The pattern of names. -/
def name : List Char :=
  "[A-Za-z](?:[A-Za-z0-9_.\\-]*[A-Za-z0-9.\\-])?".toList

/-- The pattern of plain numbers. -/
def number : List Char :=
  "(?:0|[1-9][0-9]*)".toList

/-- The pattern of gates. -/
def gate : List Char :=
  "(?P<cond>(?P<optional>~)?".toList ++
    "(?:(?P<require_true>\\?)|(?P<require_false>!)))?".toList

/-- The pattern of sources in the request or the response. -/
def exchangeSource : List Char :=
  "(?P<reqresp>(?:(?P<request>request)|".toList ++ "(?P<response>response)):".toList ++
    "(?:(?P<head>head)(?:\\[(?P<head_key>".toList ++ "[^\\]]+)\\])?|(?P<body>body))".toList ++
    "(?::\\\x7b(?P<rr_match>.*?)\\\x7d)?)".toList

/-- The pattern of sources among the variables. -/
def variableSource : List Char :=
  "(?P<variable>(?:(?P<var_chapter>&)|".toList ++ "(?P<var_bounds>%))?".toList ++
    "(?P<search_up>\\^)?var(?:\\[(?P<var_name>".toList ++ name ++
    ")\\])?(?::\\\x7b(?P<var_match>.*?)\\\x7d)?)".toList

/-- The pattern of terms of conditions. -/
def term : List Char :=
  "(?:".toList ++ number ++ "\\.\\.".toList ++ number ++ "|(?:>=|<=|>|<)?".toList ++ number ++
    ")".toList

/-- The pattern of sources in the use counts. -/
def usesSource : List Char :=
  "(?P<use>use(?:\\[(?P<use_chapter>".toList ++ "[^\\]]+)\\])?(?::\\\x7b(?P<use_expr>".toList ++
    term ++ "(?:,".toList ++ term ++ ")*)\\\x7d)?)".toList

/-- The pattern of targets. -/
def target : List Char :=
  "(?P<target>(?:(?P<target_chapter>&)|".toList ++ "(?P<target_bounds>%))?".toList ++
    "(?P<target_name>".toList ++ name ++ ")(?P<flag_exists>\\?)?".toList ++
    "(?P<flag_count>[#])?(?P<flag_result>@)?".toList ++
    "(?:(?P<spread_hash>_[#](?P<spread_index>".toList ++ number ++
    ")?)|(?P<spread_last>_\\?))?)".toList

/-- The pattern of command lines. -/
def line : List Char :=
  "^".toList ++ gate ++ "(?:".toList ++ exchangeSource ++ "|".toList ++ variableSource ++
    "|".toList ++ usesSource ++ ")".toList ++
    "(?P<action>->(?:\\\x7b(?P<literal>.*)\\\x7d|".toList ++ target ++ "))?$".toList

/-- What the groups of the pattern take of a line, if the line is a match. -/
def groups? (cs : List Char) : Option (List (Option String)) :=
  match Pattern.Tree.read line with
  | .ok tree => (Pattern.searchProgram tree.program tree.lastGroup none cs).map (·.groups)
  | .error _ => none

/-- What the named parts take of a line that is read as a shape. -/
def parts? (cs : List Char) : Option (List (Option String)) :=
  (Shape.read? cs).map fun shape =>
    GroupName.labels.map fun label => (shape.layout.groups 0).value? label.1

end Grammar

-- A gate before a replacement, a match body that goes on behind a brace, and an empty key.
example : ["?use->\x7b\x7d", "var:\x7b\x7d->\x7d->b", "use[]"].all (fun text =>
    Grammar.groups? text.toList == Grammar.parts? text.toList) = true := by
  decide +kernel

end Playback
