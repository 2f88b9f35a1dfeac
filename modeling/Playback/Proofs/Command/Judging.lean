import Mathlib.Data.List.Basic
import Playback.Proofs.Command.Groups
import Playback.Proofs.Fallible

/-!
# Two levels of judging

A line is judged twice: its groups before they are made into a command, and the command after. The
rules that both levels know are told here from the groups alone. What is judged of groups is judged
of their command too, for any list of groups; and the groups of a line, in which no part stands
outside the part it belongs to, have all the semantic faults of their command but the one of doing
nothing.
-/

namespace Playback

namespace Groups

variable {groups : Groups} {c : Command}

/-! ## The command in terms of its groups -/

/-- Whether groups replace what their source matches. -/
def replaces (groups : Groups) : Bool :=
  groups.has .action && groups.has .literal

/-- Whether the source of groups lies in the request. -/
def readsRequest (groups : Groups) : Bool :=
  groups.has .exchange && groups.has .request

/-- Whether the source of groups is all variables of a scope. -/
def readsNameless (groups : Groups) : Bool :=
  !groups.has .exchange && groups.has .variable && !groups.has .variableName

theorem isSome_value? (groups : Groups) (name : GroupName) :
    (groups.value? name).isSome = groups.has name := by
  rw [value?, Option.isSome_map, List.isSome_find?, has]

/-- A command has the gate, the source and the action of its groups. -/
theorem command_eq_ok_iff :
    groups.command = .ok c ↔
      groups.gate = c.gate ∧ groups.source = .ok c.source ∧ groups.action = .ok c.action := by
  obtain ⟨gate, source, action⟩ := c
  simp only [command, bind_eq_ok_iff, pure_eq_ok_iff, Command.mk.injEq]
  constructor
  · rintro ⟨_, hsource, _, haction, hgate, rfl, rfl⟩
    exact ⟨hgate, hsource, haction⟩
  · rintro ⟨hgate, hsource, haction⟩
    exact ⟨source, hsource, action, haction, hgate, rfl, rfl⟩

theorem isSome_gate (groups : Groups) : groups.gate.isSome = groups.has .gate := by
  rw [gate]
  cases groups.has .gate <;> rfl

/-- There is an action when the groups have one, and it is a replacement when they have a literal
too. -/
theorem action_spec {action : Option Action} (h : groups.action = .ok action) :
    action.isSome = groups.has .action ∧ action.any (·.isReplacement) = groups.replaces := by
  have hliteral := groups.isSome_value? .literal
  rw [replaces]
  unfold Groups.action at h
  cases haction : groups.has .action with
  | false =>
    rw [haction] at h
    cases h
    exact ⟨rfl, rfl⟩
  | true =>
    rw [haction] at h
    cases hvalue : groups.value? .literal with
    | some text =>
      rw [hvalue] at h hliteral
      cases h
      exact ⟨rfl, hliteral⟩
    | none =>
      rw [hvalue] at h hliteral
      rw [← hliteral]
      cases hname : groups.value? .targetName with
      | none =>
        rw [hname] at h
        cases h
      | some name =>
        rw [hname] at h
        obtain ⟨spread, -, hresult⟩ := bind_eq_ok_iff.1 h
        cases hresult
        exact ⟨rfl, rfl⟩

/-- The side and the name of a source are those of its groups. -/
theorem source_spec {source : Source} (h : groups.source = .ok source) :
    source.isRequest = groups.readsRequest ∧ source.isNameless = groups.readsNameless := by
  rw [readsRequest, readsNameless]
  unfold Groups.source at h
  cases hexchange : groups.has .exchange with
  | true =>
    rw [hexchange, if_pos rfl, exchangeSource] at h
    obtain ⟨pattern, -, h⟩ := bind_eq_ok_iff.1 h
    cases hrequest : groups.has .request <;> cases hresponse : groups.has .response <;>
      cases hhead : groups.has .head <;> cases hbody : groups.has .body <;>
        rw [hrequest, hresponse, hhead, hbody] at h <;> cases h <;> exact ⟨rfl, rfl⟩
  | false =>
    rw [hexchange, if_neg Bool.false_ne_true] at h
    cases hvariable : groups.has .variable with
    | true =>
      rw [hvariable, if_pos rfl, variableSource] at h
      obtain ⟨pattern, -, hresult⟩ := bind_eq_ok_iff.1 h
      cases hresult
      refine ⟨rfl, ?_⟩
      rw [Source.isNameless, ← isSome_value?]
      cases groups.value? .variableName <;> rfl
    | false =>
      rw [hvariable, if_neg Bool.false_ne_true] at h
      split at h
      · unfold usesSource at h
        cases hcondition : groups.value? .usesCondition with
        | none =>
          rw [hcondition] at h
          cases h
          exact ⟨rfl, rfl⟩
        | some text =>
          rw [hcondition] at h
          obtain ⟨condition, -, hresult⟩ := bind_eq_ok_iff.1 h
          cases hresult
          exact ⟨rfl, rfl⟩
      · cases h

/-- A command tests or acts when its groups do. -/
theorem testsOrActs_of_command (h : groups.command = .ok c) :
    c.testsOrActs = groups.testsOrActs := by
  obtain ⟨hgate, -, haction⟩ := command_eq_ok_iff.1 h
  rw [Command.testsOrActs, testsOrActs, ← hgate, isSome_gate, (action_spec haction).1]

/-- What is judged of a command is told from its groups. -/
theorem check_of_command (h : groups.command = .ok c) :
    c.check =
      if !groups.testsOrActs then .error .nothingToDo
      else if groups.replaces then
        if groups.readsRequest then .error .selfWriteOnRequest
        else if groups.readsNameless then .error .selfWriteOnNamelessVariable
        else .ok ()
      else .ok () := by
  obtain ⟨-, hsource, haction⟩ := command_eq_ok_iff.1 h
  obtain ⟨hrequest, hnameless⟩ := source_spec hsource
  rw [Command.check, testsOrActs_of_command h, (action_spec haction).2, hrequest, hnameless]

/-! ## Any groups -/

/-- Behind the rules of syntax two rules on literals are judged. -/
theorem check_of_not_syntax_fault (h : ∀ fault, groups.check ≠ .error (.ofSyntax fault)) :
    groups.check =
      if groups.has .literal && groups.has .request then .error (.ofSemantics .selfWriteOnRequest)
      else if groups.has .literal && groups.has .variable && !groups.has .variableName then
        .error (.ofSemantics .selfWriteOnNamelessVariable)
      else .ok () := by
  rw [check_eq] at h ⊢
  by_cases hempty : groups.isEmpty = true
  · rw [if_pos hempty] at h
    exact absurd rfl (h _)
  rw [if_neg hempty] at h ⊢
  by_cases hcount : groups.sourceCount ≠ 1
  · rw [if_pos hcount] at h
    exact absurd rfl (h _)
  rw [if_neg hcount] at h ⊢
  split
  · rename_i hparts
    rw [if_pos hparts] at h
    exact absurd rfl (h _)
  · rename_i hparts
    rw [if_neg hparts] at h
    cases hunescaped : groups.unescaped? with
    | some text =>
      rw [hunescaped] at h
      exact absurd rfl (h _)
    | none => rfl

/-- Groups without a fault do not replace what cannot be replaced. -/
theorem replaces_of_check (h : groups.check = .ok ()) (hreplaces : groups.replaces = true) :
    groups.readsRequest = false ∧ groups.readsNameless = false := by
  obtain ⟨-, hliteral⟩ := Bool.and_eq_true_iff.1 hreplaces
  have hrules := check_of_not_syntax_fault fun fault hfault => nomatch h.symm.trans hfault
  rw [h, hliteral] at hrules
  split_ifs at hrules with hrequest hnameless
  rw [Bool.true_and, Bool.not_eq_true] at hrequest hnameless
  rw [readsRequest, readsNameless, Bool.and_assoc, hrequest, hnameless, Bool.and_false,
    Bool.and_false]
  exact ⟨rfl, rfl⟩

/-- Of groups without a fault only those that neither test nor act are a faulty command. -/
theorem check_command_of_check (h : groups.command = .ok c) (hcheck : groups.check = .ok ()) :
    c.check = if groups.testsOrActs then .ok () else .error .nothingToDo := by
  rw [check_of_command h]
  cases groups.testsOrActs with
  | false => rfl
  | true =>
    rw [Bool.not_true, if_neg Bool.false_ne_true, if_pos rfl]
    split
    · rename_i hreplaces
      obtain ⟨hrequest, hnameless⟩ := replaces_of_check hcheck hreplaces
      rw [hrequest, hnameless]
      rfl
    · rfl

/-- What is judged of groups is judged of a command alike. -/
structure JudgedAlike (groups : Groups) (c : Command) : Prop where
  /-- Both test or act, or neither does. -/
  testsOrActs : c.testsOrActs = groups.testsOrActs
  /-- The command of a legal combination may run when the groups test or act. -/
  check : groups.check = .ok () → (c.check = .ok () ↔ groups.testsOrActs = true)

/-- What is judged of any groups is judged of their command alike. -/
theorem judgedAlike_of_command (h : groups.command = .ok c) : groups.JudgedAlike c := by
  refine ⟨testsOrActs_of_command h, fun hcheck => ?_⟩
  rw [check_command_of_check h hcheck]
  cases groups.testsOrActs <;> simp

/-! ## Groups of a line -/

/-- The parts that are judged stand inside those that they belong to. -/
structure Nested (groups : Groups) : Prop where
  /-- A literal stands in an action. -/
  literal : groups.has .literal = true → groups.has .action = true
  /-- The word for the request stands in a message source. -/
  request : groups.has .request = true → groups.has .exchange = true
  /-- A variable source stands outside of a message source. -/
  «variable» : groups.has .variable = true → groups.has .exchange = false

/-- The parts of a shape are nested. -/
theorem nested_groups (shape : Shape) : shape.groups.Nested := by
  obtain ⟨gate, source, action⟩ := shape
  constructor
  · simp (disch := decide) only [Shape.has_groups, lookup_of_mem_actionNames]
    rcases action with _ | ⟨cs | t⟩ <;> simp [ActionShape.layout]
  all_goals
    simp (disch := decide) only [Shape.has_groups, lookup_of_mem_sourceNames]
    rcases source with ⟨side, part, body⟩ | ⟨scope, up, name, body⟩ | ⟨chapter, condition⟩
    · cases side <;> cases part <;> simp [SourceShape.layout]
    · cases scope <;> simp [SourceShape.layout]
    · simp [SourceShape.layout]

/-- The parts of a line are nested. -/
theorem nested_ofLine (line : String) : (ofLine line).Nested := by
  cases hshape : Shape.read? line.toList with
  | none =>
    rw [ofLine_of_read?_eq_none hshape]
    constructor <;> intro h <;> cases h
  | some shape =>
    rw [ofLine_of_read? hshape]
    exact nested_groups shape

/-- Groups with a semantic fault have a literal, and either the request or a variable without a
name for a source. -/
theorem of_check_eq_semantics {fault : SemanticFault}
    (h : groups.check = .error (.ofSemantics fault)) :
    groups.has .literal = true ∧
      (groups.has .request = true ∧ fault = .selfWriteOnRequest ∨
        groups.has .request = false ∧ groups.has .variable = true ∧
          groups.has .variableName = false ∧ fault = .selfWriteOnNamelessVariable) := by
  have hrules := check_of_not_syntax_fault fun other hother => nomatch h.symm.trans hother
  rw [h] at hrules
  split_ifs at hrules with hrequest hnameless
  · cases hrules
    rw [Bool.and_eq_true] at hrequest
    exact ⟨hrequest.1, .inl ⟨hrequest.2, rfl⟩⟩
  · cases hrules
    simp only [Bool.and_eq_true, Bool.not_eq_true'] at hnameless
    obtain ⟨⟨hliteral, hvariable⟩, hname⟩ := hnameless
    rw [hliteral, Bool.true_and, Bool.not_eq_true] at hrequest
    exact ⟨hliteral, .inr ⟨hrequest, hvariable, hname, rfl⟩⟩

/-- A semantic fault of nested groups is one of their command. -/
theorem check_command_of_semantics (hnested : groups.Nested) (h : groups.command = .ok c)
    {fault : SemanticFault} (hcheck : groups.check = .error (.ofSemantics fault)) :
    c.check = .error fault := by
  obtain ⟨hliteral, hsource⟩ := of_check_eq_semantics hcheck
  have haction := hnested.literal hliteral
  have hacts : groups.testsOrActs = true := by rw [testsOrActs, haction, Bool.or_true]
  have hreplaces : groups.replaces = true := by
    rw [replaces, haction, hliteral]
    rfl
  rw [check_of_command h, hacts, hreplaces]
  rcases hsource with ⟨hrequest, rfl⟩ | ⟨hrequest, hvariable, hname, rfl⟩
  · have hreads : groups.readsRequest = true := by
      rw [readsRequest, hnested.request hrequest, hrequest]
      rfl
    rw [hreads]
    rfl
  · have hreads : groups.readsRequest = false := by
      rw [readsRequest, hrequest, Bool.and_false]
    have hnameless : groups.readsNameless = true := by
      rw [readsNameless, hnested.variable hvariable, hvariable, hname]
      rfl
    rw [hreads, hnameless]
    rfl

end Groups

namespace Command

/-! ## Lines -/

/-- A line is read when its groups have no syntax fault and make a command. -/
theorem read_eq_ok_iff_groups {line : String} {c : Command} :
    read line = .ok c ↔
      (∀ fault, (Groups.ofLine line).check ≠ .error (.ofSyntax fault)) ∧
        (Groups.ofLine line).command = .ok c := by
  rw [read]
  split
  · rename_i hempty
    constructor
    · intro h
      cases h
    · rintro ⟨h, -⟩
      refine absurd ?_ (h (.noMatch "no grammar match"))
      rw [Groups.check_eq, if_pos hempty]
  · split
    · rename_i fault hfault
      constructor
      · intro h
        cases h
      · rintro ⟨h, -⟩
        exact absurd hfault (h fault)
    · rename_i hfault
      exact (and_iff_right hfault).symm

/-- A line compiles when it is read as a command without a fault. -/
theorem compile_eq_ok_iff {line : String} {c : Command} :
    compile line = .ok c ↔ read line = .ok c ∧ c.check = .ok () := by
  rw [compile]
  cases hread : read line with
  | error fault =>
    constructor
    · intro h
      cases h
    · rintro ⟨h, -⟩
      cases h
  | ok command =>
    dsimp only
    cases hcheck : command.check with
    | error fault =>
      constructor
      · intro h
        cases h
      · rintro ⟨h, hc⟩
        cases h
        rw [hcheck] at hc
        cases hc
    | ok u =>
      constructor
      · intro h
        cases h
        exact ⟨rfl, hcheck⟩
      · rintro ⟨h, -⟩
        cases h
        rfl

/-- A line is compiled as its groups are judged. -/
structure CompiledAsJudged (line : String) : Prop where
  /-- A line compiles to the command of its groups when these are a legal combination and test or
  act. -/
  ok : ∀ c, compile line = .ok c ↔
    (Groups.ofLine line).check = .ok () ∧ (Groups.ofLine line).testsOrActs = true ∧
      (Groups.ofLine line).command = .ok c
  /-- The semantic fault of groups that make a command is that of the line. -/
  semantics : ∀ fault c, (Groups.ofLine line).check = .error (.ofSemantics fault) →
    (Groups.ofLine line).command = .ok c → compile line = .error (.ofSemantics fault)

/-- Every line is compiled as its groups are judged. -/
theorem compiledAsJudged (line : String) : CompiledAsJudged line := by
  constructor
  · intro c
    rw [compile_eq_ok_iff, read_eq_ok_iff_groups]
    constructor
    · rintro ⟨⟨hlegible, hcommand⟩, hcheck⟩
      have hok : (Groups.ofLine line).check = .ok () := by
        cases hgroups : (Groups.ofLine line).check with
        | ok u => rfl
        | error fault =>
          cases fault with
          | ofSyntax fault => exact absurd hgroups (hlegible fault)
          | ofSemantics fault =>
            rw [Groups.check_command_of_semantics (Groups.nested_ofLine line) hcommand hgroups]
              at hcheck
            cases hcheck
      rw [Groups.check_command_of_check hcommand hok] at hcheck
      split_ifs at hcheck with hacts
      exact ⟨hok, hacts, hcommand⟩
    · rintro ⟨hok, hacts, hcommand⟩
      refine ⟨⟨?_, hcommand⟩, ?_⟩
      · intro fault hfault
        rw [hok] at hfault
        cases hfault
      · rw [Groups.check_command_of_check hcommand hok, if_pos hacts]
  · intro fault c hgroups hcommand
    -- reading drops the semantic fault, and checking the command finds it again
    have hread : read line = .ok c := by
      refine read_eq_ok_iff_groups.2 ⟨?_, hcommand⟩
      intro other hother
      rw [hgroups] at hother
      cases hother
    have hcheck := Groups.check_command_of_semantics (Groups.nested_ofLine line) hcommand hgroups
    rw [compile, hread]
    dsimp only
    rw [hcheck]

/-- The two levels agree: on any groups that make a command, and on what becomes of any line. -/
theorem judgedAlike :
    (∀ (groups : Groups) (c : Command), groups.command = .ok c → groups.JudgedAlike c) ∧
      ∀ line, CompiledAsJudged line :=
  ⟨fun _ _ h => Groups.judgedAlike_of_command h, compiledAsJudged⟩

end Command

/-- Groups of no line: the parts are out of order, one is repeated, and one is unknown. -/
def Groups.jumbled : Groups := [
  ⟨.literal, "7", 0, 1⟩, ⟨.variableName, "count", 0, 0⟩, ⟨.uses, "use", 5, 8⟩,
  ⟨.other "note", "", 0, 0⟩, ⟨.uses, "var", 2, 3⟩, ⟨.action, "", 9, 9⟩]

/-- The command of these groups. -/
def Command.jumbled : Command :=
  ⟨none, .uses none none, some (.replace ⟨"7"⟩)⟩

/-- These groups are judged alike, and so is a line that replaces the body of the request. -/
theorem Command.judgedAlike_jumbled :
    Groups.jumbled.command = .ok jumbled ∧ Groups.jumbled.check = .ok () ∧
      jumbled.check = .ok () ∧
      compile "request:body->\x7b7\x7d" = .error (.ofSemantics .selfWriteOnRequest) := by
  have hcommand : Groups.jumbled.command = .ok jumbled := by decide +kernel
  have hcheck : Groups.jumbled.check = .ok () := by decide +kernel
  refine ⟨hcommand, hcheck, ?_, ?_⟩
  · exact ((judgedAlike.1 _ _ hcommand).check hcheck).2 (by decide +kernel)
  · exact (judgedAlike.2 _).semantics _ ⟨none, .body .request none, some (.replace ⟨"7"⟩)⟩
      (by decide +kernel) (by decide +kernel)

end Playback
