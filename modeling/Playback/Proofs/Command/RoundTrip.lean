import Playback.Command.Printer
import Playback.Proofs.Command.Groups
import Playback.Proofs.Command.ReadBack
import Playback.Proofs.Count.RoundTrip
import Playback.Proofs.Fallible

/-!
# Commands and their lines

A line that is read as a command is the line of that command, and the commands that their lines are
read as are the well-formed ones. Both follow from one equivalence: a legible shape describes a
command exactly when it is the shape of that command and the numbers of the command are in range.
-/

namespace Playback

open Text

/-! ## Numbers in range -/

/-- Counts can reach the numbers of the condition. -/
def Source.InRange : Source → Prop
  | .uses _ condition => ∀ e ∈ condition, e.InRange
  | .head _ _ _ | .body _ _ | .variable _ _ _ _ => True

/-- An index has 32 bits. -/
def Spread.InRange : Spread → Prop
  | .index n => n < Nat.pow 2 32
  | .none | .all | .last => True

/-- The index of an extraction has 32 bits. -/
def Action.InRange : Action → Prop
  | .replace _ => True
  | .extract target => target.spread.InRange

/-- The numbers of a command are in range. -/
structure Command.InRange (c : Command) : Prop where
  /-- Those of the source. -/
  source : c.source.InRange
  /-- Those of the action. -/
  action : ∀ action ∈ c.action, action.InRange

/-! ## Texts that are interpreted -/

/-- A text is read as a pattern exactly when it is the text of the pattern. -/
theorem Pattern.read_eq_ok_iff {text : String} {p : Pattern} :
    Pattern.read text = .ok p ↔ p.text = text := by
  unfold Pattern.read
  constructor
  · intro h
    split at h
    · cases h
      rfl
    · cases h
  · rintro rfl
    split
    · exact congrArg Except.ok (Pattern.ext rfl)
    · rename_i fault hfault
      rw [p.tree_eq] at hfault
      cases hfault

/-- A match body describes a pattern exactly when it is the text of the pattern. -/
theorem patternOf_eq_ok_iff {body : Option (List Char)} {pattern : Option Pattern} :
    patternOf body = .ok pattern ↔ pattern.map (·.text.toList) = body := by
  cases body with
  | none => cases pattern <;> simp [patternOf]
  | some cs =>
    have hread {p : Pattern} : Pattern.read (String.ofList cs) = .ok p ↔ p.text.toList = cs := by
      rw [Pattern.read_eq_ok_iff, ← String.toList_inj, String.toList_ofList]
    rw [patternOf, Option.map_eq_some_iff]
    simp only [← hread]
    cases Pattern.read (String.ofList cs) with
    | error cause => simp
    | ok p => simp [eq_comm]

/-- The text of a condition describes that condition, when counts can reach its numbers. -/
theorem conditionOf_eq_ok_iff {condition : Option (List Char)} {expr : Option CountExpr}
    (h : ∀ cs ∈ condition, isConditionText cs = true) :
    conditionOf condition = .ok expr ↔
      expr.map CountExpr.chars = condition ∧ ∀ e ∈ expr, e.InRange := by
  cases condition with
  | none => cases expr <;> simp [conditionOf, pure_eq_ok_iff]
  | some cs =>
    rw [conditionOf, map_eq_ok_iff]
    constructor
    · rintro ⟨e, hread, rfl⟩
      obtain ⟨f, rfl⟩ := exists_chars_of_isConditionText (h cs rfl)
      obtain ⟨hrange, rfl⟩ := CountExpr.read_text_eq_ok_iff.1 hread
      exact ⟨rfl, by simpa using hrange⟩
    · rintro ⟨hchars, hrange⟩
      obtain ⟨e, rfl, rfl⟩ := Option.map_eq_some_iff.1 hchars
      exact ⟨e, CountExpr.read_text_eq_ok_iff.2 ⟨hrange e rfl, rfl⟩, rfl⟩

/-! ## Shapes that are interpreted -/

theorem map_toList_map_ofList (text : Option (List Char)) :
    (text.map String.ofList).map String.toList = text := by
  cases text <;> simp

theorem map_ofList_map_toList (text : Option String) :
    (text.map String.toList).map String.ofList = text := by
  cases text <;> simp

/-- A legible source describes the source that it is the shape of. -/
theorem SourceShape.source_eq_ok_iff {shape : SourceShape} {source : Source} (h : shape.Legible) :
    shape.source = .ok source ↔ source.shape = shape ∧ source.InRange := by
  cases shape with
  | exchange side part body =>
    cases part with
    | head key =>
      simp only [SourceShape.source, bind_eq_ok_iff, pure_eq_ok_iff, patternOf_eq_ok_iff]
      constructor
      · rintro ⟨pattern, rfl, rfl⟩
        rw [Source.shape, map_toList_map_ofList]
        exact ⟨rfl, trivial⟩
      · rintro ⟨hshape, -⟩
        cases source <;> cases hshape
        rw [map_ofList_map_toList]
        exact ⟨_, rfl, rfl⟩
    | body =>
      simp only [SourceShape.source, bind_eq_ok_iff, pure_eq_ok_iff, patternOf_eq_ok_iff]
      constructor
      · rintro ⟨pattern, rfl, rfl⟩
        exact ⟨rfl, trivial⟩
      · rintro ⟨hshape, -⟩
        cases source <;> cases hshape
        exact ⟨_, rfl, rfl⟩
  | «variable» scope up name body =>
    simp only [SourceShape.source, bind_eq_ok_iff, pure_eq_ok_iff, patternOf_eq_ok_iff]
    constructor
    · rintro ⟨pattern, rfl, rfl⟩
      rw [Source.shape, map_toList_map_ofList]
      exact ⟨rfl, trivial⟩
    · rintro ⟨hshape, -⟩
      cases source <;> cases hshape
      rw [map_ofList_map_toList]
      exact ⟨_, rfl, rfl⟩
  | uses chapter condition =>
    simp only [SourceShape.source, bind_eq_ok_iff, pure_eq_ok_iff, conditionOf_eq_ok_iff h.2]
    constructor
    · rintro ⟨expr, ⟨rfl, hrange⟩, rfl⟩
      rw [Source.shape, map_toList_map_ofList]
      exact ⟨rfl, hrange⟩
    · rintro ⟨hshape, hrange⟩
      cases source <;> cases hshape
      rw [map_ofList_map_toList]
      exact ⟨_, ⟨rfl, hrange⟩, rfl⟩

/-- A legible spread suffix describes the one that it is the shape of. -/
theorem SpreadShape.spread_eq_ok_iff {shape : SpreadShape} {spread : Spread} (h : shape.Legible) :
    shape.spread = .ok spread ↔ spread.shape = shape ∧ spread.InRange := by
  rcases shape with _ | ⟨_ | index⟩ | _
  · cases spread <;> simp [SpreadShape.spread, Spread.shape, Spread.InRange]
  · cases spread <;> simp [SpreadShape.spread, Spread.shape, Spread.InRange]
  · obtain ⟨n, rfl⟩ := isPlainNumber_iff.1 h
    rw [SpreadShape.spread, natBelow?_natDigits]
    constructor
    · intro hread
      split at hread
      · rename_i m hm
        rw [Option.ite_none_right_eq_some, Option.some_inj] at hm
        obtain ⟨hn, rfl⟩ := hm
        cases hread
        exact ⟨rfl, hn⟩
      · cases hread
    · rintro ⟨hshape, hrange⟩
      cases spread with
      | index m =>
        obtain rfl : m = n := by simpa [Spread.shape, natDigits_inj] using hshape
        have hm : m < Nat.pow 2 32 := hrange
        rw [if_pos hm]
      | none => cases hshape
      | all => cases hshape
      | last => cases hshape
  · cases spread <;> simp [SpreadShape.spread, Spread.shape, Spread.InRange]

/-- A legible target describes the target that it is the shape of. -/
theorem TargetShape.target_eq_ok_iff {shape : TargetShape} {target : Target} (h : shape.Legible) :
    shape.target = .ok target ↔ target.shape = shape ∧ target.spread.InRange := by
  simp only [TargetShape.target, bind_eq_ok_iff, pure_eq_ok_iff,
    SpreadShape.spread_eq_ok_iff h.2]
  constructor
  · rintro ⟨spread, ⟨hshape, hrange⟩, rfl⟩
    rw [Target.shape, hshape, String.toList_ofList]
    exact ⟨rfl, hrange⟩
  · rintro ⟨rfl, hrange⟩
    refine ⟨target.spread, ⟨rfl, hrange⟩, ?_⟩
    rw [Target.shape, String.ofList_toList]

/-- A legible action describes the action that it is the shape of. -/
theorem ActionShape.action_eq_ok_iff {shape : ActionShape} {action : Action} (h : shape.Legible) :
    shape.action = .ok action ↔ action.shape = shape ∧ action.InRange := by
  cases shape with
  | literal cs =>
    rw [ActionShape.action, pure_eq_ok_iff]
    constructor
    · rintro rfl
      rw [Action.shape, String.toList_ofList]
      exact ⟨rfl, trivial⟩
    · rintro ⟨hshape, -⟩
      cases action <;> cases hshape
      rw [String.ofList_toList]
  | target t =>
    rw [ActionShape.action, map_eq_ok_iff]
    simp only [TargetShape.target_eq_ok_iff h]
    constructor
    · rintro ⟨target, ⟨rfl, hrange⟩, rfl⟩
      exact ⟨rfl, hrange⟩
    · rintro ⟨hshape, hrange⟩
      cases action <;> cases hshape
      exact ⟨_, ⟨rfl, hrange⟩, rfl⟩

/-- A legible action that may be missing describes the one that it is the shape of. -/
theorem actionOf_eq_ok_iff {shape : Option ActionShape} {action : Option Action}
    (h : ∀ a ∈ shape, a.Legible) :
    actionOf shape = .ok action ↔
      action.map Action.shape = shape ∧ ∀ a ∈ action, a.InRange := by
  cases shape with
  | none => cases action <;> simp [actionOf, pure_eq_ok_iff]
  | some shape =>
    rw [actionOf, map_eq_ok_iff]
    simp only [ActionShape.action_eq_ok_iff (h shape rfl)]
    constructor
    · rintro ⟨a, ⟨rfl, hrange⟩, rfl⟩
      exact ⟨rfl, by simpa using hrange⟩
    · rintro ⟨hshape, hrange⟩
      obtain ⟨a, rfl, rfl⟩ := Option.map_eq_some_iff.1 hshape
      exact ⟨a, ⟨rfl, hrange a rfl⟩, rfl⟩

/-- A legible shape describes the command that it is the shape of. -/
theorem Shape.command_eq_ok_iff {shape : Shape} {c : Command} (h : shape.Legible) :
    shape.command = .ok c ↔ c.shape = shape ∧ c.InRange := by
  simp only [Shape.command, bind_eq_ok_iff, pure_eq_ok_iff,
    SourceShape.source_eq_ok_iff h.source, actionOf_eq_ok_iff h.action]
  constructor
  · rintro ⟨source, ⟨hsource, hrange⟩, action, ⟨haction, hranges⟩, rfl⟩
    rw [Command.shape, hsource, haction]
    exact ⟨rfl, hrange, hranges⟩
  · rintro ⟨rfl, hrange⟩
    exact ⟨c.source, ⟨rfl, hrange.source⟩, c.action, ⟨rfl, hrange.action⟩, rfl⟩

/-! ## Lines that are commands -/

/-- No text in braces contains the separator when the match body and the literal do not. -/
theorem Shape.unescaped?_eq_none_iff {shape : Shape} :
    shape.unescaped? = none ↔
      (∀ b ∈ shape.source.body?, ¬ separator <:+: b) ∧
        ∀ cs ∈ shape.literal?, ¬ separator <:+: cs := by
  simp [Shape.unescaped?, Option.filter_eq_none_iff, occursIn_iff]

/-- A line is read as a command when it is the line of that command, the shape of the command is
legible, no text in braces contains the separator, and the numbers are in range. -/
theorem Command.read_eq_ok_iff {line : String} {c : Command} :
    Command.read line = .ok c ↔
      c.text = line ∧ c.shape.Legible ∧ c.shape.unescaped? = none ∧ c.InRange := by
  rw [Command.read_eq]
  constructor
  · intro h
    split at h
    · cases h
    · rename_i shape hshape
      obtain ⟨hchars, hlegible⟩ := Shape.chars_of_read? hshape
      split at h
      · cases h
      · rename_i hunescaped
        obtain ⟨rfl, hrange⟩ := (Shape.command_eq_ok_iff hlegible).1 h
        refine ⟨?_, hlegible, hunescaped, hrange⟩
        rw [Command.text, hchars, String.ofList_toList]
  · rintro ⟨rfl, hlegible, hunescaped, hrange⟩
    have hbody := (Shape.unescaped?_eq_none_iff.1 hunescaped).1
    rw [Command.text, String.toList_ofList, Shape.read?_chars hlegible hbody]
    dsimp only
    rw [hunescaped]
    exact (Shape.command_eq_ok_iff hlegible).2 ⟨rfl, hrange⟩

/-! ## Well-formed commands -/

/-- A text that can stand in braces. -/
def IsBody (cs : List Char) : Prop :=
  '\n' ∉ cs ∧ ¬ separator <:+: cs

/-- The texts of a source can stand at their places, and its numbers are counts. -/
def Source.WellFormed : Source → Prop
  | .head _ key pattern =>
    (∀ k ∈ key, IsKey k.toList) ∧ ∀ p ∈ pattern, IsBody p.text.toList
  | .body _ pattern => ∀ p ∈ pattern, IsBody p.text.toList
  | .variable _ _ name pattern =>
    (∀ n ∈ name, isName n.toList = true) ∧ ∀ p ∈ pattern, IsBody p.text.toList
  | .uses chapter condition =>
    (∀ k ∈ chapter, IsKey k.toList) ∧ ∀ e ∈ condition, e.InRange

/-- The texts of an action can stand at their places, and its index has 32 bits. -/
def Action.WellFormed : Action → Prop
  | .replace template => IsBody template.text.toList
  | .extract target => isName target.name.toList = true ∧ target.spread.InRange

/-- The texts of a command can stand at their places, and its numbers are in range. -/
structure Command.WellFormed (c : Command) : Prop where
  /-- Those of the source. -/
  source : c.source.WellFormed
  /-- Those of the action. -/
  action : ∀ action ∈ c.action, action.WellFormed

/-- A source is well-formed when its shape is legible, its match body can stand in braces and its
numbers are in range. -/
theorem Source.wellFormed_iff (source : Source) :
    source.WellFormed ↔
      source.shape.Legible ∧ (∀ b ∈ source.shape.body?, ¬ separator <:+: b) ∧ source.InRange := by
  cases source with
  | head side key pattern =>
    cases key <;> cases pattern <;>
      simp [Source.WellFormed, Source.shape, SourceShape.Legible, PartShape.Legible,
        SourceShape.body?, Source.InRange, IsBody, and_assoc]
  | body side pattern =>
    cases pattern <;>
      simp [Source.WellFormed, Source.shape, SourceShape.Legible, PartShape.Legible,
        SourceShape.body?, Source.InRange, IsBody]
  | «variable» scope up name pattern =>
    cases name <;> cases pattern <;>
      simp [Source.WellFormed, Source.shape, SourceShape.Legible, SourceShape.body?,
        Source.InRange, IsBody, and_assoc]
  | uses chapter condition =>
    cases chapter <;> cases condition <;>
      simp [Source.WellFormed, Source.shape, SourceShape.Legible, SourceShape.body?,
        Source.InRange, isConditionText_chars]

/-- An action is well-formed when its shape is legible, its literal can stand in braces and its
index is in range. -/
theorem Action.wellFormed_iff (action : Action) :
    action.WellFormed ↔
      action.shape.Legible ∧ (∀ cs, action.shape = .literal cs → ¬ separator <:+: cs) ∧
        action.InRange := by
  cases action with
  | replace template =>
    simp [Action.WellFormed, Action.shape, ActionShape.Legible, Action.InRange, IsBody]
  | extract target =>
    obtain ⟨scope, name, tellMatched, tellCount, tellPassed, spread⟩ := target
    cases spread <;>
      simp [Action.WellFormed, Action.shape, ActionShape.Legible, TargetShape.Legible,
        Target.shape, Spread.shape, SpreadShape.Legible, Action.InRange, Spread.InRange]

/-- A command is well-formed when its shape is legible, no text in braces contains the separator
and its numbers are in range. -/
theorem Command.wellFormed_iff (c : Command) :
    c.WellFormed ↔ c.shape.Legible ∧ c.shape.unescaped? = none ∧ c.InRange := by
  obtain ⟨gate, source, action⟩ := c
  have hliteral : (∀ cs ∈ (Command.shape ⟨gate, source, action⟩).literal?, ¬ separator <:+: cs) ↔
      ∀ a ∈ action, ∀ cs, a.shape = .literal cs → ¬ separator <:+: cs := by
    rcases action with _ | ⟨template | target⟩ <;>
      simp [Command.shape, Shape.literal?, Action.shape]
  rw [Shape.unescaped?_eq_none_iff, hliteral]
  constructor
  · rintro ⟨hsource, haction⟩
    obtain ⟨hlegible, hbody, hrange⟩ := (Source.wellFormed_iff source).1 hsource
    have hactions (a : Action) (ha : a ∈ action) := (Action.wellFormed_iff a).1 (haction a ha)
    refine ⟨⟨hlegible, ?_⟩, ⟨hbody, fun a ha => (hactions a ha).2.1⟩,
      ⟨hrange, fun a ha => (hactions a ha).2.2⟩⟩
    intro shape hshape
    obtain ⟨a, ha, rfl⟩ := Option.map_eq_some_iff.1 hshape
    exact (hactions a ha).1
  · rintro ⟨⟨hlegible, hlegibles⟩, ⟨hbody, hbodies⟩, ⟨hrange, hranges⟩⟩
    refine ⟨(Source.wellFormed_iff source).2 ⟨hlegible, hbody, hrange⟩, ?_⟩
    intro a ha
    have hmem : a.shape ∈ action.map Action.shape := Option.mem_map_of_mem Action.shape ha
    exact (Action.wellFormed_iff a).2 ⟨hlegibles _ hmem, hbodies a ha, hranges a ha⟩

/-- A line that is read as a command is, character by character, the line of that command, so that
reading it again gives the same command. -/
theorem Command.text_of_read {line : String} {c : Command} (h : Command.read line = .ok c) :
    c.text = line ∧ Command.read c.text = .ok c := by
  have hline : c.text = line := (Command.read_eq_ok_iff.1 h).1
  refine ⟨hline, ?_⟩
  rw [hline, h]

/-- A pattern with a closing brace in its text. -/
def Pattern.braced : Pattern where
  text := "a\x7dz"
  tree := .both (.chars (.single 'a')) (.both (.chars (.single '}')) (.chars (.single 'z')))
  tree_eq := by decide +kernel

/-- A command with a gate, a key, a pattern, flags and a spread suffix. -/
def Command.braced : Command where
  gate := some ⟨true, true⟩
  source := .head .response (some "Set-Cookie") (some Pattern.braced)
  action := some (.extract ⟨.chapter, "n_x", true, false, true, .all⟩)

/-- A line whose match body contains a closing brace is the line of its command. -/
theorem Command.text_of_read_braced :
    Command.read "~?response:head[Set-Cookie]:\x7ba\x7dz\x7d->&n_x?@_#" = .ok Command.braced ∧
      Command.braced.text = "~?response:head[Set-Cookie]:\x7ba\x7dz\x7d->&n_x?@_#" ∧
      Command.read Command.braced.text = .ok Command.braced := by
  have h :
      Command.read "~?response:head[Set-Cookie]:\x7ba\x7dz\x7d->&n_x?@_#" = .ok Command.braced := by
    decide +kernel
  exact ⟨h, Command.text_of_read h⟩

/-- The commands that their lines are read as are the well-formed ones. -/
theorem Command.read_text_iff (c : Command) : Command.read c.text = .ok c ↔ c.WellFormed := by
  rw [Command.read_eq_ok_iff, Command.wellFormed_iff]
  exact and_iff_right rfl

end Playback
