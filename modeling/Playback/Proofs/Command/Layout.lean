import Playback.Command.Shape

/-!
# The named parts of a layout

Which text the first part with a name has can be told from the layout alone, without its place in
the line. The parts of a gate, a source and an action have names of their own, so that each name is
looked for in one of the three.
-/

namespace Playback

namespace Layout

/-! ## Texts -/

@[simp] theorem chars_append (a b : Layout) : (a ++ b).chars = a.chars ++ b.chars := rfl

@[simp] theorem chars_part (name : GroupName) (inner : Layout) :
    (part name inner).chars = inner.chars := rfl

@[simp] theorem chars_leaf (name : GroupName) (cs : List Char) : (leaf name cs).chars = cs := rfl

@[simp] theorem chars_text (cs : List Char) : (text cs).chars = cs := rfl

@[simp] theorem chars_nothing : nothing.chars = [] := rfl

@[simp] theorem chars_onlyIf (condition : Bool) (layout : Layout) :
    (onlyIf condition layout).chars = if condition then layout.chars else [] := by
  cases condition <;> rfl

@[simp] theorem chars_ofOption_none {α : Type} (layout : α → Layout) :
    (ofOption none layout).chars = [] := rfl

@[simp] theorem chars_ofOption_some {α : Type} (a : α) (layout : α → Layout) :
    (ofOption (some a) layout).chars = (layout a).chars := rfl

/-! ## Names -/

/-- The text of the first part with a name. -/
def lookup (name : GroupName) : Layout → Option (List Char)
  | .nothing | .text _ => none
  | .part n inner => if n = name then some inner.chars else inner.lookup name
  | .beside a b => a.lookup name <|> b.lookup name

@[simp] theorem lookup_append (name : GroupName) (a b : Layout) :
    (a ++ b).lookup name = (a.lookup name <|> b.lookup name) := rfl

@[simp] theorem lookup_part (name other : GroupName) (inner : Layout) :
    (part other inner).lookup name = if other = name then some inner.chars else inner.lookup name :=
  rfl

@[simp] theorem lookup_leaf (name other : GroupName) (cs : List Char) :
    (leaf other cs).lookup name = if other = name then some cs else none := rfl

@[simp] theorem lookup_text (name : GroupName) (cs : List Char) : (text cs).lookup name = none :=
  rfl

@[simp] theorem lookup_nothing (name : GroupName) : nothing.lookup name = none := rfl

@[simp] theorem lookup_onlyIf (name : GroupName) (condition : Bool) (layout : Layout) :
    (onlyIf condition layout).lookup name = if condition then layout.lookup name else none := by
  cases condition <;> rfl

@[simp] theorem lookup_ofOption_none {α : Type} (name : GroupName) (layout : α → Layout) :
    (ofOption none layout).lookup name = none := rfl

@[simp] theorem lookup_ofOption_some {α : Type} (name : GroupName) (a : α) (layout : α → Layout) :
    (ofOption (some a) layout).lookup name = (layout a).lookup name := rfl

theorem value?_append (name : GroupName) (gs hs : Groups) :
    Groups.value? (gs ++ hs) name = (gs.value? name <|> hs.value? name) := by
  rw [Groups.value?, List.find?_append]
  cases h : gs.find? fun g => g.name == name <;> simp [Groups.value?, h]

/-- The groups of a layout have the texts of its parts, wherever it starts. -/
theorem value?_groups (name : GroupName) (layout : Layout) (start : Nat) :
    (layout.groups start).value? name = (layout.lookup name).map String.ofList := by
  induction layout generalizing start with
  | nothing => rfl
  | text cs => rfl
  | part other inner ih =>
    by_cases h : other = name
    · simp [groups, lookup, Groups.value?, h]
    · have hrest := ih start
      simp only [Groups.value?] at hrest
      simp [groups, lookup, Groups.value?, h, hrest]
  | beside a b iha ihb =>
    rw [groups, value?_append, iha, ihb, lookup]
    cases a.lookup name <;> rfl

/-- There is a group with a name exactly when there is such a part. -/
theorem has_groups (name : GroupName) (layout : Layout) (start : Nat) :
    (layout.groups start).has name = (layout.lookup name).isSome := by
  have hvalue := congrArg Option.isSome (value?_groups name layout start)
  rw [Option.isSome_map] at hvalue
  rw [← hvalue, Groups.value?, Option.isSome_map, List.isSome_find?, Groups.has]

/-- The names of the parts, each one before those inside it. -/
def names : Layout → List GroupName
  | .nothing | .text _ => []
  | .part name inner => name :: inner.names
  | .beside a b => a.names ++ b.names

@[simp] theorem names_append (a b : Layout) : (a ++ b).names = a.names ++ b.names := rfl

@[simp] theorem names_part (name : GroupName) (inner : Layout) :
    (part name inner).names = name :: inner.names := rfl

@[simp] theorem names_leaf (name : GroupName) (cs : List Char) : (leaf name cs).names = [name] :=
  rfl

@[simp] theorem names_text (cs : List Char) : (text cs).names = [] := rfl

@[simp] theorem names_ofOption_none {α : Type} (layout : α → Layout) :
    (ofOption none layout).names = [] := rfl

@[simp] theorem names_ofOption_some {α : Type} (a : α) (layout : α → Layout) :
    (ofOption (some a) layout).names = (layout a).names := rfl

/-- No part is found by a name that the layout does not have. -/
theorem lookup_eq_none {name : GroupName} {layout : Layout} (h : name ∉ layout.names) :
    layout.lookup name = none := by
  induction layout with
  | nothing => rfl
  | text cs => rfl
  | part other inner ih =>
    rw [names, List.mem_cons, not_or] at h
    rw [lookup, if_neg fun he => h.1 he.symm, ih h.2]
  | beside a b iha ihb =>
    rw [names, List.mem_append, not_or] at h
    rw [lookup, iha h.1, ihb h.2]
    rfl

end Layout

/-! ## The three parts of a line -/

/-- The names of a gate and its parts, in order. -/
def gateNames : List GroupName :=
  [.gate, .gateOptional, .gateTrue, .gateFalse]

/-- The names of a source and its parts, in order. -/
def sourceNames : List GroupName :=
  [.exchange, .request, .response, .head, .headKey, .body, .exchangeMatch, .variable,
    .variableChapter, .variableBounds, .variableUp, .variableName, .variableMatch, .uses,
    .usesChapter, .usesCondition]

/-- The names of an action and its parts, in order. -/
def actionNames : List GroupName :=
  [.action, .literal, .target, .targetChapter, .targetBounds, .targetName, .tellMatched, .tellCount,
    .tellPassed, .spreadAll, .spreadIndex, .spreadLast]

open Layout

theorem names_onlyIf_sublist (condition : Bool) (layout : Layout) :
    (onlyIf condition layout).names.Sublist layout.names := by
  cases condition with
  | false => exact List.nil_sublist _
  | true => exact List.Sublist.refl _

@[simp] theorem lookup_bracketLayout (name other : GroupName) (key : Option (List Char)) :
    (bracketLayout other key).lookup name = if other = name then key else none := by
  cases key <;> simp [bracketLayout]

@[simp] theorem lookup_braceLayout (name other : GroupName) (body : Option (List Char)) :
    (braceLayout other body).lookup name = if other = name then body else none := by
  cases body <;> simp [braceLayout]

@[simp] theorem lookup_scope_layout (name chapterName boundsName : GroupName) (scope : Scope) :
    (scope.layout chapterName boundsName).lookup name =
      match scope with
      | .local => none
      | .chapter => if chapterName = name then some ['&'] else none
      | .testBounds => if boundsName = name then some ['%'] else none := by
  cases scope <;> rfl

theorem names_ofOption_sublist {α : Type} {layout : α → Layout} {names : List GroupName}
    (h : ∀ a, (layout a).names.Sublist names) (value : Option α) :
    (ofOption value layout).names.Sublist names := by
  cases value with
  | none => exact List.nil_sublist _
  | some a => exact h a

theorem names_bracketLayout_sublist (name : GroupName) (key : Option (List Char)) :
    (bracketLayout name key).names.Sublist [name] := by
  cases key with
  | none => exact List.nil_sublist _
  | some cs => exact List.Sublist.refl _

theorem names_braceLayout_sublist (name : GroupName) (body : Option (List Char)) :
    (braceLayout name body).names.Sublist [name] := by
  cases body with
  | none => exact List.nil_sublist _
  | some cs => exact List.Sublist.refl _

theorem names_scope_sublist (chapterName boundsName : GroupName) (scope : Scope) :
    (scope.layout chapterName boundsName).names.Sublist [chapterName, boundsName] := by
  cases scope with
  | «local» => exact List.nil_sublist _
  | chapter => exact (List.nil_sublist _).cons_cons _
  | testBounds => exact (List.Sublist.refl _).cons _

/-- A gate has gate names, in order. -/
theorem names_gate_sublist (gate : Gate) : gate.layout.names.Sublist gateNames := by
  obtain ⟨optional, expected⟩ := gate
  cases optional <;> cases expected <;> decide

/-- A source has source names, in order. -/
theorem names_source_sublist (source : SourceShape) :
    source.layout.names.Sublist sourceNames := by
  cases source with
  | exchange side part pattern =>
    have hpattern := names_braceLayout_sublist .exchangeMatch pattern
    cases part with
    | head key =>
      have hkey := names_bracketLayout_sublist .headKey key
      have hpart := (hkey.cons_cons .head).append hpattern
      cases side with
      | request =>
        have hall := (hpart.cons_cons .request).cons_cons .exchange
        exact hall.trans (by decide)
      | response =>
        have hall := (hpart.cons_cons .response).cons_cons .exchange
        exact hall.trans (by decide)
    | body =>
      have hpart := hpattern.cons_cons .body
      cases side with
      | request =>
        have hall := (hpart.cons_cons .request).cons_cons .exchange
        exact hall.trans (by decide)
      | response =>
        have hall := (hpart.cons_cons .response).cons_cons .exchange
        exact hall.trans (by decide)
  | «variable» scope up name pattern =>
    have hscope := names_scope_sublist .variableChapter .variableBounds scope
    have hup := names_onlyIf_sublist up (leaf .variableUp ['^'])
    have hname := names_bracketLayout_sublist .variableName name
    have hpattern := names_braceLayout_sublist .variableMatch pattern
    have hall := (((hscope.append hup).append hname).append hpattern).cons_cons .variable
    unfold SourceShape.layout
    rw [names_part, names_append, names_append, names_append, names_append, names_text,
      List.append_nil]
    exact hall.trans (by decide)
  | uses chapter condition =>
    have hchapter := names_bracketLayout_sublist .usesChapter chapter
    have hcondition := names_braceLayout_sublist .usesCondition condition
    have hall := (hchapter.append hcondition).cons_cons .uses
    exact hall.trans (by decide)

/-- A spread suffix has spread names, in order. -/
theorem names_spread_sublist (spread : SpreadShape) :
    spread.layout.names.Sublist [.spreadAll, .spreadIndex, .spreadLast] := by
  cases spread with
  | none => exact List.nil_sublist _
  | hash index => cases index <;> simp [SpreadShape.layout]
  | last => decide

/-- An action has action names, in order. -/
theorem names_action_sublist (action : ActionShape) :
    action.layout.names.Sublist actionNames := by
  cases action with
  | literal cs =>
    have h : (ActionShape.literal cs).layout.names = [.action, .literal] := rfl
    rw [h]
    decide
  | target t =>
    have hscope := names_scope_sublist .targetChapter .targetBounds t.scope
    have hmatched := names_onlyIf_sublist t.tellMatched (leaf .tellMatched ['?'])
    have hcount := names_onlyIf_sublist t.tellCount (leaf .tellCount ['#'])
    have hpassed := names_onlyIf_sublist t.tellPassed (leaf .tellPassed ['@'])
    have hspread := names_spread_sublist t.spread
    have hname := List.Sublist.refl [GroupName.targetName]
    have hall := (((((hscope.append hname).append hmatched).append hcount).append hpassed).append
      hspread).cons_cons .target
    exact ((hall.cons .literal).cons_cons .action)

variable {name : GroupName}

/-- Gate names are found in the gate. -/
theorem lookup_of_mem_gateNames (h : name ∈ gateNames) (shape : Shape) :
    shape.layout.lookup name = (ofOption shape.gate Gate.layout).lookup name := by
  have hother : ∀ n ∈ gateNames, n ∉ sourceNames ∧ n ∉ actionNames := by decide
  have hsource := (hother name h).1 ∘ fun hm => (names_source_sublist shape.source).subset hm
  have haction := (hother name h).2 ∘ fun hm =>
    (names_ofOption_sublist names_action_sublist shape.action).subset hm
  rw [Shape.layout, lookup_append, lookup_append, lookup_eq_none hsource, lookup_eq_none haction]
  cases (ofOption shape.gate Gate.layout).lookup name <;> rfl

/-- Source names are found in the source. -/
theorem lookup_of_mem_sourceNames (h : name ∈ sourceNames) (shape : Shape) :
    shape.layout.lookup name = shape.source.layout.lookup name := by
  have hother : ∀ n ∈ sourceNames, n ∉ gateNames ∧ n ∉ actionNames := by decide
  have hgate := (hother name h).1 ∘ fun hm =>
    (names_ofOption_sublist names_gate_sublist shape.gate).subset hm
  have haction := (hother name h).2 ∘ fun hm =>
    (names_ofOption_sublist names_action_sublist shape.action).subset hm
  rw [Shape.layout, lookup_append, lookup_append, lookup_eq_none hgate, lookup_eq_none haction]
  cases shape.source.layout.lookup name <;> rfl

/-- Action names are found in the action. -/
theorem lookup_of_mem_actionNames (h : name ∈ actionNames) (shape : Shape) :
    shape.layout.lookup name = (ofOption shape.action ActionShape.layout).lookup name := by
  have hother : ∀ n ∈ actionNames, n ∉ gateNames ∧ n ∉ sourceNames := by decide
  have hgate := (hother name h).1 ∘ fun hm =>
    (names_ofOption_sublist names_gate_sublist shape.gate).subset hm
  have hsource := (hother name h).2 ∘ fun hm => (names_source_sublist shape.source).subset hm
  rw [Shape.layout, lookup_append, lookup_append, lookup_eq_none hgate, lookup_eq_none hsource]
  rfl

end Playback
