import Playback.Command.Build
import Playback.Proofs.Command.Layout

/-!
# The command of a shape

The groups of a line are the parts of its shape. What is judged and built from them is told here
from the shape itself: reading a line is reading its shape, refusing a separator in braces, and
interpreting the texts of the shape.
-/

namespace Playback

open Text Layout

/-! ## Interpreting texts -/

/-- The pattern of a match body, if there is one. -/
def patternOf : Option (List Char) → Except SyntaxFault (Option Pattern)
  | none => .ok none
  | some cs =>
    match Pattern.read (String.ofList cs) with
    | .ok pattern => .ok (some pattern)
    | .error cause => .error (.invalidPattern (String.ofList cs) cause)

/-- The condition of a text, if there is one. -/
def conditionOf : Option (List Char) → Except SyntaxFault (Option CountExpr)
  | none => return none
  | some cs => some <$> CountExpr.read (String.ofList cs)

/-- The source of a shape. -/
def SourceShape.source : SourceShape → Except SyntaxFault Source
  | .exchange side (.head key) body => do
    return .head side (key.map String.ofList) (← patternOf body)
  | .exchange side .body body => do
    return .body side (← patternOf body)
  | .variable scope up name body => do
    return .variable scope up (name.map String.ofList) (← patternOf body)
  | .uses chapter condition => do
    return .uses (chapter.map String.ofList) (← conditionOf condition)

/-- The spread suffix of a shape. -/
def SpreadShape.spread : SpreadShape → Except SyntaxFault Spread
  | .none => .ok .none
  | .hash Option.none => .ok .all
  | .hash (some index) =>
    match natBelow? (Nat.pow 2 32) index with
    | some n => .ok (.index n)
    | Option.none => .error (.invalidNumber (String.ofList index))
  | .last => .ok .last

/-- The target of a shape. -/
def TargetShape.target (t : TargetShape) : Except SyntaxFault Target := do
  return ⟨t.scope, String.ofList t.name, t.tellMatched, t.tellCount, t.tellPassed,
    ← t.spread.spread⟩

/-- The action of a shape. -/
def ActionShape.action : ActionShape → Except SyntaxFault Action
  | .literal cs => return .replace ⟨String.ofList cs⟩
  | .target t => .extract <$> t.target

/-- The action of a shape that may have none. -/
def actionOf : Option ActionShape → Except SyntaxFault (Option Action)
  | none => return none
  | some action => some <$> action.action

/-- The command of a shape. -/
def Shape.command (shape : Shape) : Except SyntaxFault Command := do
  let source ← shape.source.source
  let action ← actionOf shape.action
  return ⟨shape.gate, source, action⟩

/-- The match body of a source. -/
def SourceShape.body? : SourceShape → Option (List Char)
  | .exchange _ _ body | .variable _ _ _ body => body
  | .uses _ _ => none

/-- The literal of a line. -/
def Shape.literal? (shape : Shape) : Option (List Char) :=
  match shape.action with
  | some (.literal cs) => some cs
  | _ => none

/-- The first text in braces that contains the separator. -/
def Shape.unescaped? (shape : Shape) : Option (List Char) :=
  shape.source.body?.filter (occursIn separator) <|> shape.literal?.filter (occursIn separator)

/-! ## The groups of a shape -/

/-- The groups of a line with this shape. -/
def Shape.groups (shape : Shape) : Groups :=
  shape.layout.groups 0

theorem Shape.has_groups (shape : Shape) (name : GroupName) :
    shape.groups.has name = (shape.layout.lookup name).isSome :=
  Layout.has_groups name shape.layout 0

theorem Shape.value?_groups (shape : Shape) (name : GroupName) :
    shape.groups.value? name = (shape.layout.lookup name).map String.ofList :=
  Layout.value?_groups name shape.layout 0

theorem Shape.pattern_groups (shape : Shape) (name : GroupName) :
    shape.groups.pattern name = patternOf (shape.layout.lookup name) := by
  rw [Groups.pattern, shape.value?_groups]
  cases shape.layout.lookup name <;> rfl

/-- The gate of a shape is the gate of its groups. -/
theorem gate_groups (shape : Shape) : shape.groups.gate = shape.gate := by
  simp (disch := decide) only [Groups.gate, Shape.has_groups, lookup_of_mem_gateNames]
  cases shape.gate with
  | none => rfl
  | some gate =>
    obtain ⟨optional, expected⟩ := gate
    cases optional <;> cases expected <;> rfl

/-- The source of a shape is the source of its groups. -/
theorem source_groups (shape : Shape) : shape.groups.source = shape.source.source := by
  simp (disch := decide) only [Groups.source, Groups.exchangeSource, Groups.variableSource,
    Groups.usesSource, Groups.scope, Shape.has_groups, Shape.value?_groups, Shape.pattern_groups,
    lookup_of_mem_sourceNames]
  cases shape.source with
  | exchange side part body =>
    cases side <;> cases part <;> simp [SourceShape.layout, SourceShape.source]
  | «variable» scope up name body =>
    cases scope <;> cases up <;> simp [SourceShape.layout, SourceShape.source]
  | uses chapter condition =>
    cases condition <;> simp [SourceShape.layout, SourceShape.source, conditionOf]

theorem isSome_onlyIf (condition : Bool) (cs : List Char) :
    (if condition = true then some cs else none).isSome = condition := by
  cases condition <;> rfl

/-- The spread suffix of a target is the spread suffix of the groups. -/
theorem spread_groups {shape : Shape} {t : TargetShape} (h : shape.action = some (.target t)) :
    shape.groups.spread = t.spread.spread := by
  simp (disch := decide) only [Groups.spread, Shape.has_groups, Shape.value?_groups,
    lookup_of_mem_actionNames, h]
  obtain ⟨scope, name, matched, count, passed, spread⟩ := t
  rcases spread with _ | (_ | index) | _
  case hash.some =>
    cases hindex : natBelow? (Nat.pow 2 32) index <;> cases scope <;>
      simp [ActionShape.layout, TargetShape.layout, SpreadShape.layout, SpreadShape.spread, hindex]
  all_goals
    cases scope <;>
      simp [ActionShape.layout, TargetShape.layout, SpreadShape.layout, SpreadShape.spread]

/-- The action of a shape is the action of its groups. -/
theorem action_groups (shape : Shape) : shape.groups.action = actionOf shape.action := by
  cases haction : shape.action with
  | none =>
    simp (disch := decide) only [Groups.action, Shape.has_groups, lookup_of_mem_actionNames,
      haction]
    rfl
  | some action =>
    cases action with
    | literal cs =>
      simp (disch := decide) only [Groups.action, Shape.has_groups, Shape.value?_groups,
        lookup_of_mem_actionNames, haction]
      simp [ActionShape.layout, actionOf, ActionShape.action]
    | target t =>
      simp (disch := decide) only [Groups.action, spread_groups haction, Groups.scope,
        Shape.has_groups, Shape.value?_groups, lookup_of_mem_actionNames, haction]
      obtain ⟨scope, name, matched, count, passed, spread⟩ := t
      cases scope <;> rcases spread with _ | (_ | index) | _ <;>
        simp [ActionShape.layout, TargetShape.layout, SpreadShape.layout, isSome_onlyIf, actionOf,
          ActionShape.action, TargetShape.target]

/-- The command of a shape is the command of its groups. -/
theorem command_groups (shape : Shape) : shape.groups.command = shape.command := by
  rw [Groups.command, source_groups, action_groups, gate_groups]
  rfl

/-! ## Judging -/

/-- The groups of a shape name one source. -/
theorem sourceCount_groups (shape : Shape) : shape.groups.sourceCount = 1 := by
  simp (disch := decide) only [Groups.sourceCount, Shape.has_groups, List.filter_cons,
    List.filter_nil, lookup_of_mem_sourceNames]
  rcases shape.source with ⟨side, part, body⟩ | ⟨scope, up, name, body⟩ | ⟨chapter, condition⟩
  · cases side <;> cases part <;> simp [SourceShape.layout]
  · cases scope <;> simp [SourceShape.layout]
  · simp [SourceShape.layout]

/-- A source in a message names its side and its part. -/
theorem has_side_and_part {shape : Shape} (h : shape.groups.has .exchange = true) :
    (shape.groups.has .request || shape.groups.has .response) = true ∧
      (shape.groups.has .head || shape.groups.has .body) = true := by
  simp (disch := decide) only [Shape.has_groups, lookup_of_mem_sourceNames] at h ⊢
  obtain ⟨gate, source, action⟩ := shape
  rcases source with ⟨side, part, body⟩ | ⟨scope, up, name, body⟩ | ⟨chapter, condition⟩
  · cases side <;> cases part <;> simp [SourceShape.layout]
  · cases scope <;> simp [SourceShape.layout] at h
  · simp [SourceShape.layout] at h

/-- The literal of a shape is that of its groups. -/
theorem literal_groups (shape : Shape) :
    shape.groups.value? .literal = shape.literal?.map String.ofList := by
  rw [shape.value?_groups, lookup_of_mem_actionNames (by decide)]
  obtain ⟨gate, source, _ | ⟨cs | t⟩⟩ := shape
  · rfl
  · rfl
  · obtain ⟨scope, name, matched, count, passed, spread⟩ := t
    cases scope <;> rcases spread with _ | (_ | index) | _ <;>
      simp [ActionShape.layout, TargetShape.layout, SpreadShape.layout, Shape.literal?]

/-- The match body of a shape is that of its groups, under one of two names. -/
theorem body_groups (shape : Shape) :
    shape.groups.value? .exchangeMatch = shape.source.body?.map String.ofList ∧
        shape.groups.value? .variableMatch = none ∨
      shape.groups.value? .exchangeMatch = none ∧
        shape.groups.value? .variableMatch = shape.source.body?.map String.ofList := by
  simp (disch := decide) only [Shape.value?_groups, lookup_of_mem_sourceNames]
  rcases shape.source with ⟨side, part, body⟩ | ⟨scope, up, name, body⟩ | ⟨chapter, condition⟩
  · left
    cases side <;> cases part <;> simp [SourceShape.layout, SourceShape.body?]
  · right
    cases scope <;> simp [SourceShape.layout, SourceShape.body?]
  · simp [SourceShape.layout, SourceShape.body?]

/-- Texts are looked through for the separator character by character. -/
theorem filter_occursIn_ofList (text : Option (List Char)) :
    ((text.map String.ofList).filter fun s => occursIn separator s.toList) =
      (text.filter (occursIn separator)).map String.ofList := by
  cases text with
  | none => rfl
  | some cs =>
    rw [Option.map_some, Option.filter_some, Option.filter_some, String.toList_ofList]
    cases occursIn separator cs <;> rfl

/-- The first group in braces that contains the separator is that of the shape. -/
theorem unescaped?_groups (shape : Shape) :
    shape.groups.unescaped? = shape.unescaped?.map String.ofList := by
  have hall : shape.groups.unescaped? =
      ((shape.source.body?.filter (occursIn separator)).map String.ofList <|>
        (shape.literal?.filter (occursIn separator)).map String.ofList) := by
    rw [Groups.unescaped?, ← filter_occursIn_ofList, ← filter_occursIn_ofList, ← literal_groups]
    simp only [List.findSome?_cons, List.findSome?_nil]
    rcases body_groups shape with ⟨hexchange, hvariable⟩ | ⟨hexchange, hvariable⟩
    · rw [hexchange, hvariable]
      cases (shape.source.body?.map String.ofList).filter _ <;>
        cases (shape.groups.value? .literal).filter _ <;> rfl
    · rw [hexchange, hvariable]
      cases (shape.source.body?.map String.ofList).filter _ <;>
        cases (shape.groups.value? .literal).filter _ <;> rfl
  rw [hall, Shape.unescaped?]
  cases shape.source.body?.filter (occursIn separator) <;> rfl

/-- What is judged of groups, in order. -/
theorem Groups.check_eq (groups : Groups) :
    groups.check =
      if groups.isEmpty then .error (.ofSyntax (.noMatch "no grammar match"))
      else if groups.sourceCount ≠ 1 then .error (.ofSyntax (.sourceCount groups.sourceCount))
      else if groups.has .exchange && !((groups.has .request || groups.has .response) &&
          (groups.has .head || groups.has .body)) then .error (.ofSyntax (.incomplete .headOrBody))
      else
        match groups.unescaped? with
        | some s => .error (.ofSyntax (.unescapedSeparator s))
        | none =>
          if groups.has .literal && groups.has .request then
            .error (.ofSemantics .selfWriteOnRequest)
          else if groups.has .literal && groups.has .variable && !groups.has .variableName then
            .error (.ofSemantics .selfWriteOnNamelessVariable)
          else .ok () := by
  unfold check
  by_cases hempty : groups.isEmpty = true
  · rw [if_pos hempty, if_pos hempty]
    rfl
  rw [if_neg hempty, if_neg hempty]
  by_cases hcount : groups.sourceCount ≠ 1
  · rw [if_pos hcount, if_pos hcount]
    rfl
  rw [if_neg hcount, if_neg hcount]
  cases groups.has .exchange <;> cases (groups.has .request || groups.has .response) <;>
    cases (groups.has .head || groups.has .body) <;> cases groups.unescaped? <;>
    cases groups.has .literal <;> cases groups.has .request <;> cases groups.has .variable <;>
    cases groups.has .variableName <;> rfl

/-- A shape has groups. -/
theorem isEmpty_groups (shape : Shape) : shape.groups.isEmpty = false := by
  have hcount := sourceCount_groups shape
  cases hgroups : shape.groups with
  | nil =>
    rw [hgroups] at hcount
    exact absurd hcount (by decide)
  | cons g gs => rfl

/-- Of a shape only the separator in braces is a syntax fault. -/
theorem check_groups_eq_syntax_iff {shape : Shape} {fault : SyntaxFault} :
    shape.groups.check = .error (.ofSyntax fault) ↔
      ∃ cs, shape.unescaped? = some cs ∧ fault = .unescapedSeparator (String.ofList cs) := by
  have hparts : (shape.groups.has .exchange &&
      !((shape.groups.has .request || shape.groups.has .response) &&
        (shape.groups.has .head || shape.groups.has .body))) = false := by
    cases h : shape.groups.has .exchange with
    | false => rfl
    | true =>
      obtain ⟨hside, hpart⟩ := has_side_and_part h
      rw [hside, hpart]
      rfl
  rw [Groups.check_eq, isEmpty_groups, sourceCount_groups, hparts, unescaped?_groups]
  cases shape.unescaped? with
  | some cs => simp [eq_comm]
  | none =>
    refine ⟨fun h => ?_, fun ⟨_, hcs, _⟩ => (nomatch hcs)⟩
    simp only [Bool.false_eq_true, if_false, ne_eq, not_true_eq_false, Option.map_none] at h
    split at h
    · cases h
    · split at h <;> cases h

/-- The groups of a line are those of its shape. -/
theorem ofLine_of_read? {line : String} {shape : Shape} (h : Shape.read? line.toList = some shape) :
    Groups.ofLine line = shape.groups := by
  rw [Groups.ofLine, h, Shape.groups]

/-- A line without a shape has no groups. -/
theorem ofLine_of_read?_eq_none {line : String} (h : Shape.read? line.toList = none) :
    Groups.ofLine line = [] := by
  rw [Groups.ofLine, h]

/-- A line is read by its shape. -/
theorem Command.read_eq (line : String) :
    Command.read line =
      match Shape.read? line.toList with
      | none => .error (.noMatch line)
      | some shape =>
        match shape.unescaped? with
        | some cs => .error (.unescapedSeparator (String.ofList cs))
        | none => shape.command := by
  cases hshape : Shape.read? line.toList with
  | none =>
    rw [Command.read, ofLine_of_read?_eq_none hshape]
    rfl
  | some shape =>
    rw [Command.read, ofLine_of_read? hshape, isEmpty_groups, if_neg Bool.false_ne_true,
      command_groups]
    dsimp only
    cases hunescaped : shape.unescaped? with
    | some cs => rw [check_groups_eq_syntax_iff.2 ⟨cs, hunescaped, rfl⟩]
    | none =>
      cases hcheck : shape.groups.check with
      | ok u => rfl
      | error fault =>
        cases fault with
        | ofSemantics fault => rfl
        | ofSyntax fault =>
          obtain ⟨cs, hcs, -⟩ := check_groups_eq_syntax_iff.1 hcheck
          rw [hunescaped] at hcs
          cases hcs

end Playback
