import Playback.Proofs.Command.Form
import Playback.Proofs.Command.RoundTrip
import Playback.Proofs.Count.Numbers

/-!
# Why a line is refused

A line is refused for its form, for a separator in braces, for a match body that is no pattern, or
for a number out of range, and for the first of these that applies. There is no other fault: a line
with the form of a command names one source with all of its parts, and its action has a target.
-/

namespace Playback

open Text

/-! ## What may be wrong with a shape -/

/-- The condition of a use count source. -/
def SourceShape.condition? : SourceShape → Option (List Char)
  | .uses _ condition => condition
  | .exchange _ _ _ | .variable _ _ _ _ => none

/-- The index of a spread suffix. -/
def SpreadShape.index? : SpreadShape → Option (List Char)
  | .hash index => index
  | .none | .last => Option.none

/-- The index of an extraction. -/
def ActionShape.index? : ActionShape → Option (List Char)
  | .literal _ => none
  | .target t => t.spread.index?

namespace Shape

/-- The match body, if there is one, is a pattern. -/
def HasPattern (shape : Shape) : Prop :=
  ∀ body ∈ shape.source.body?, ∃ pattern, Pattern.read (String.ofList body) = .ok pattern

/-- The numbers of a line that are out of range, in order: those of the condition that counts cannot
reach, and an index of more than 32 bits. -/
def beyond (shape : Shape) : List Nat :=
  (shape.source.condition?.toList.flatMap numbersIn).filter (maxCount < ·) ++
    ((shape.action.bind ActionShape.index?).toList.flatMap numbersIn).filter (Nat.pow 2 32 ≤ ·)

end Shape

/-- The faults for which a line is refused. Each kind applies only where none before it does. -/
def Command.RefusedFor (line : String) : SyntaxFault → Prop
  | .noMatch text => text = line ∧ ∀ shape : Shape, shape.Legible → shape.chars ≠ line.toList
  | .unescapedSeparator text => ∃ shape : Shape, shape.IsFormOf line.toList ∧
      shape.unescaped? = some text.toList
  | .invalidPattern text cause => ∃ shape : Shape, shape.IsFormOf line.toList ∧
      shape.unescaped? = none ∧ shape.source.body? = some text.toList ∧
      Pattern.read text = .error cause
  | .invalidNumber text => ∃ shape : Shape, shape.IsFormOf line.toList ∧
      shape.unescaped? = none ∧ shape.HasPattern ∧
      ∃ n, shape.beyond.head? = some n ∧ text = natText n
  | .sourceCount _ | .incomplete _ => False

/-! ## Interpreting shapes -/

/-- A source with a pattern for a match body is refused for its numbers only. -/
theorem SourceShape.exists_source {source : SourceShape} {pattern : Option Pattern}
    (h : source.Legible) (hpattern : patternOf source.body? = .ok pattern) :
    ∃ s, source.source = refuseNumber
      ((source.condition?.toList.flatMap numbersIn).find? (maxCount < ·)) s := by
  cases source with
  | exchange side part body =>
    have hbody : patternOf body = .ok pattern := hpattern
    cases part with
    | head key =>
      refine ⟨.head side (key.map String.ofList) pattern, ?_⟩
      rw [SourceShape.source, hbody]
      rfl
    | body =>
      refine ⟨.body side pattern, ?_⟩
      rw [SourceShape.source, hbody]
      rfl
  | «variable» scope up name body =>
    have hbody : patternOf body = .ok pattern := hpattern
    refine ⟨.variable scope up (name.map String.ofList) pattern, ?_⟩
    rw [SourceShape.source, hbody]
    rfl
  | uses chapter condition =>
    cases condition with
    | none => exact ⟨.uses (chapter.map String.ofList) none, rfl⟩
    | some cs =>
      obtain ⟨e, rfl⟩ := exists_chars_of_isConditionText (h.2 cs rfl)
      have hread := e.read_text
      rw [CountExpr.text, ← e.numbersIn_chars] at hread
      refine ⟨.uses (chapter.map String.ofList) (some e), ?_⟩
      rw [SourceShape.source, conditionOf, hread, map_refuseNumber, SourceShape.condition?,
        Option.toList_some, List.flatMap_singleton]
      exact map_refuseNumber _

/-- The fault of a match body that is no pattern is the fault of its source. -/
theorem SourceShape.source_eq_error {source : SourceShape} {body : List Char}
    {cause : Pattern.Fault} (hbody : source.body? = some body)
    (hread : Pattern.read (String.ofList body) = .error cause) :
    source.source = .error (.invalidPattern (String.ofList body) cause) := by
  have hpattern : patternOf (some body) = .error (.invalidPattern (String.ofList body) cause) := by
    rw [patternOf, hread]
  cases source with
  | exchange side part other =>
    obtain rfl : other = some body := hbody
    cases part <;> rw [SourceShape.source, hpattern] <;> rfl
  | «variable» scope up name other =>
    obtain rfl : other = some body := hbody
    rw [SourceShape.source, hpattern]
    rfl
  | uses chapter condition => cases hbody

/-- An index is refused for its size. -/
theorem SpreadShape.spread_index (n : Nat) :
    SpreadShape.spread (.hash (some (natDigits n))) =
      refuseNumber ([n].find? (Nat.pow 2 32 ≤ ·)) (.index n) := by
  rw [SpreadShape.spread, natBelow?_natDigits]
  by_cases h : n < Nat.pow 2 32
  · have hn : ¬ Nat.pow 2 32 ≤ n := Nat.not_le.2 h
    rw [if_pos h, List.find?_cons_of_neg (by simpa using hn)]
    rfl
  · have hn : Nat.pow 2 32 ≤ n := Nat.not_lt.1 h
    rw [if_neg h, List.find?_cons_of_pos (by simpa using hn)]
    rfl

/-- An action is refused for its index only. -/
theorem exists_actionOf {action : Option ActionShape} (h : ∀ a ∈ action, a.Legible) :
    ∃ a, actionOf action = refuseNumber
      (((action.bind ActionShape.index?).toList.flatMap numbersIn).find? (Nat.pow 2 32 ≤ ·)) a := by
  rcases action with _ | ⟨cs | ⟨scope, name, matched, count, passed, spread⟩⟩
  · exact ⟨none, rfl⟩
  · exact ⟨some (.replace ⟨String.ofList cs⟩), rfl⟩
  · let target (spread : Spread) : Action :=
      .extract ⟨scope, String.ofList name, matched, count, passed, spread⟩
    rcases spread with _ | (_ | index) | _
    · exact ⟨some (target .none), rfl⟩
    · exact ⟨some (target .all), rfl⟩
    · obtain ⟨n, rfl⟩ := isPlainNumber_iff.1 (h _ rfl).2
      refine ⟨some (target (.index n)), ?_⟩
      have hnumbers : (Option.toList (some (natDigits n))).flatMap numbersIn = [n] := by
        rw [Option.toList_some, List.flatMap_singleton, numbersIn_natDigits]
      have hspread := SpreadShape.spread_index n
      rw [actionOf, ActionShape.action, TargetShape.target, hspread]
      change _ = refuseNumber (((Option.toList (some (natDigits n))).flatMap numbersIn).find? _) _
      rw [hnumbers]
      cases [n].find? (Nat.pow 2 32 ≤ ·) <;> rfl
    · exact ⟨some (target .last), rfl⟩

namespace Shape

variable {shape : Shape}

/-- The command of a legible shape with a pattern is refused for its numbers only. -/
theorem exists_command (h : shape.Legible) (hpattern : shape.HasPattern) :
    ∃ c, shape.command = refuseNumber shape.beyond.head? c := by
  have hbody : ∃ pattern, patternOf shape.source.body? = .ok pattern := by
    cases hbody : shape.source.body? with
    | none => exact ⟨none, rfl⟩
    | some body =>
      obtain ⟨pattern, hread⟩ := hpattern body hbody
      exact ⟨some pattern, by rw [patternOf, hread]⟩
  obtain ⟨pattern, hbody⟩ := hbody
  obtain ⟨source, hsource⟩ := SourceShape.exists_source h.source hbody
  obtain ⟨action, haction⟩ := exists_actionOf h.action
  refine ⟨⟨shape.gate, source, action⟩, ?_⟩
  rw [Shape.command, hsource, haction, beyond, List.head?_append, List.head?_filter,
    List.head?_filter]
  -- the source is read first, so that its numbers are refused before an index
  cases (shape.source.condition?.toList.flatMap numbersIn).find? (maxCount < ·) <;>
    cases ((shape.action.bind ActionShape.index?).toList.flatMap numbersIn).find?
      (Nat.pow 2 32 ≤ ·) <;> rfl

/-- A match body that is no pattern has a fault. -/
theorem exists_fault_of_not_hasPattern (h : ¬ shape.HasPattern) :
    ∃ body cause, shape.source.body? = some body ∧
      Pattern.read (String.ofList body) = .error cause := by
  simp only [HasPattern, not_forall, not_exists] at h
  obtain ⟨body, hbody, hread⟩ := h
  cases hresult : Pattern.read (String.ofList body) with
  | ok pattern => exact absurd hresult (hread pattern)
  | error cause => exact ⟨body, cause, hbody, hresult⟩

/-- The faults of a legible shape: a match body that is no pattern, and where there is none such a
number out of range. -/
theorem command_eq_error_iff {fault : SyntaxFault} (h : shape.Legible) :
    shape.command = .error fault ↔
      (∃ body cause, shape.source.body? = some body ∧
        Pattern.read (String.ofList body) = .error cause ∧
        fault = .invalidPattern (String.ofList body) cause) ∨
      (shape.HasPattern ∧
        ∃ n, shape.beyond.head? = some n ∧ fault = .invalidNumber (natText n)) := by
  by_cases hpattern : shape.HasPattern
  · obtain ⟨c, hcommand⟩ := exists_command h hpattern
    rw [hcommand, refuseNumber_eq_error_iff]
    constructor
    · exact fun hnumber => .inr ⟨hpattern, hnumber⟩
    · rintro (⟨body, cause, hbody, hread, -⟩ | ⟨-, hnumber⟩)
      · obtain ⟨pattern, hok⟩ := hpattern body hbody
        rw [hok] at hread
        cases hread
      · exact hnumber
  · obtain ⟨body, cause, hbody, hread⟩ := exists_fault_of_not_hasPattern hpattern
    have hsource := SourceShape.source_eq_error hbody hread
    rw [Shape.command, bind_eq_error_iff, hsource]
    constructor
    · rintro (hfault | ⟨source, hok, -⟩)
      · exact .inl ⟨body, cause, hbody, hread, (Except.error.inj hfault).symm⟩
      · cases hok
    · rintro (⟨other, cause', hother, hread', rfl⟩ | ⟨hok, -⟩)
      · rw [hbody, Option.some_inj] at hother
        subst hother
        rw [hread] at hread'
        cases hread'
        exact .inl rfl
      · exact absurd hok hpattern

/-- A legible shape has a command when its match body is a pattern and its numbers are in range. -/
theorem exists_command_eq_ok_iff (h : shape.Legible) :
    (∃ c, shape.command = .ok c) ↔ shape.HasPattern ∧ shape.beyond = [] := by
  by_cases hpattern : shape.HasPattern
  · obtain ⟨c, hcommand⟩ := exists_command h hpattern
    simp only [hcommand, refuseNumber_eq_ok_iff, List.head?_eq_none_iff, exists_and_left,
      exists_eq', and_true]
    exact (and_iff_right hpattern).symm
  · obtain ⟨body, cause, hbody, hread⟩ := exists_fault_of_not_hasPattern hpattern
    have hfault := (command_eq_error_iff h).2 (.inl ⟨body, cause, hbody, hread, rfl⟩)
    rw [hfault]
    constructor
    · rintro ⟨c, hc⟩
      cases hc
    · exact fun hok => absurd hok.1 hpattern

end Shape

/-! ## Refused lines -/

/-- A line has no groups when it is the text of no legible shape. -/
theorem Groups.ofLine_eq_nil_iff {line : String} :
    Groups.ofLine line = [] ↔ ∀ shape : Shape, shape.Legible → shape.chars ≠ line.toList := by
  rw [← Shape.read?_eq_none_iff]
  cases hread : Shape.read? line.toList with
  | none => exact iff_of_true (ofLine_of_read?_eq_none hread) rfl
  | some shape =>
    have hgroups : Groups.ofLine line ≠ [] := by
      rw [ofLine_of_read? hread, ← List.isEmpty_eq_false_iff, isEmpty_groups]
    exact iff_of_false hgroups fun hnone => nomatch hnone

namespace Command

variable {line : String} {shape : Shape}

/-- The form of a line decides how it is read. -/
theorem read_eq_of_isFormOf (h : shape.IsFormOf line.toList) :
    read line =
      match shape.unescaped? with
      | some cs => .error (.unescapedSeparator (String.ofList cs))
      | none => shape.command := by
  have hline := Command.read_eq line
  rw [Shape.read?_eq_some_iff.2 h] at hline
  exact hline

/-- A line without a form is refused for that only. -/
theorem refusedFor_of_noForm (h : Shape.read? line.toList = none) (fault : SyntaxFault) :
    RefusedFor line fault ↔ fault = .noMatch line := by
  have hnone (shape : Shape) : ¬ shape.IsFormOf line.toList := by
    rw [← Shape.read?_eq_some_iff, h]
    exact fun hsome => nomatch hsome
  have hchars := Shape.read?_eq_none_iff.1 h
  cases fault with
  | noMatch text =>
    rw [RefusedFor, SyntaxFault.noMatch.injEq]
    exact and_iff_left hchars
  | unescapedSeparator | invalidPattern | invalidNumber => simp [RefusedFor, hnone]
  | sourceCount | incomplete => simp [RefusedFor]

/-- A line with a separator in braces is refused for that, and else for what its form is refused
for. -/
theorem refusedFor_of_isFormOf (h : shape.IsFormOf line.toList) (fault : SyntaxFault) :
    RefusedFor line fault ↔
      match shape.unescaped? with
      | some cs => fault = .unescapedSeparator (String.ofList cs)
      | none => shape.command = .error fault := by
  have hform (other : Shape) : other.IsFormOf line.toList ↔ other = shape := by
    rw [← Shape.read?_eq_some_iff, Shape.read?_eq_some_iff.2 h, Option.some_inj]
    exact eq_comm
  have hnoMatch (text : String) : ¬ RefusedFor line (.noMatch text) := by
    rintro ⟨-, hnone⟩
    exact hnone shape h.legible h.chars_eq
  have htext (text : String) (cs : List Char) : cs = text.toList ↔ text = String.ofList cs := by
    constructor
    · rintro rfl
      exact String.ofList_toList.symm
    · rintro rfl
      exact String.toList_ofList.symm
  cases hunescaped : shape.unescaped? with
  | some cs =>
    cases fault with
    | noMatch text => simp [hnoMatch]
    | unescapedSeparator | invalidPattern | invalidNumber | sourceCount | incomplete =>
      simp [RefusedFor, hform, hunescaped, htext]
  | none =>
    dsimp only
    rw [Shape.command_eq_error_iff h.legible]
    cases fault with
    | noMatch text => simp [hnoMatch]
    | invalidPattern text cause =>
      simp only [RefusedFor, hform, exists_eq_left, hunescaped, true_and,
        SyntaxFault.invalidPattern.injEq, reduceCtorEq, and_false, exists_false, or_false]
      constructor
      · rintro ⟨hbody, hread⟩
        refine ⟨text.toList, cause, hbody, ?_, String.ofList_toList.symm, rfl⟩
        rw [String.ofList_toList]
        exact hread
      · rintro ⟨body, cause, hbody, hread, rfl, rfl⟩
        rw [String.toList_ofList]
        exact ⟨hbody, hread⟩
    | unescapedSeparator | invalidNumber | sourceCount | incomplete =>
      simp [RefusedFor, hform, hunescaped]

/-- A line is refused with the first fault that applies to it. -/
theorem read_eq_error_iff {fault : SyntaxFault} :
    read line = .error fault ↔ RefusedFor line fault := by
  cases hread : Shape.read? line.toList with
  | none =>
    rw [refusedFor_of_noForm hread, Command.read_eq, hread, Except.error.injEq]
    exact eq_comm
  | some shape =>
    have hform := Shape.read?_eq_some_iff.1 hread
    rw [refusedFor_of_isFormOf hform, read_eq_of_isFormOf hform]
    cases shape.unescaped? with
    | none => rfl
    | some cs =>
      dsimp only
      rw [Except.error.injEq]
      exact eq_comm

/-- A line has a command when it has a form to which no fault applies. -/
theorem exists_read_eq_ok_iff :
    (∃ c, read line = .ok c) ↔ ∃ shape : Shape, shape.IsFormOf line.toList ∧
      shape.unescaped? = none ∧ shape.HasPattern ∧ shape.beyond = [] := by
  constructor
  · rintro ⟨c, hc⟩
    cases hread : Shape.read? line.toList with
    | none =>
      rw [Command.read_eq, hread] at hc
      cases hc
    | some shape =>
      have hform := Shape.read?_eq_some_iff.1 hread
      rw [read_eq_of_isFormOf hform] at hc
      cases hunescaped : shape.unescaped? with
      | some cs =>
        rw [hunescaped] at hc
        cases hc
      | none =>
        rw [hunescaped] at hc
        have hok := (Shape.exists_command_eq_ok_iff hform.legible).1 ⟨c, hc⟩
        exact ⟨shape, hform, hunescaped, hok⟩
  · rintro ⟨shape, hform, hunescaped, hok⟩
    rw [read_eq_of_isFormOf hform, hunescaped]
    exact (Shape.exists_command_eq_ok_iff hform.legible).2 hok

/-- A line is refused with a fault when that is the first fault which applies to it. It has a
command when none applies: it has a form, without a separator in braces, the match body is a
pattern, and the numbers are in range. The groups of the form are those of the line. -/
theorem refusedFor_read (line : String) :
    (Groups.ofLine line = [] ↔ ∀ shape : Shape, shape.Legible → shape.chars ≠ line.toList) ∧
      (∀ fault, read line = .error fault ↔ RefusedFor line fault) ∧
      ((∃ c, read line = .ok c) ↔ ∃ shape : Shape, shape.IsFormOf line.toList ∧
        Groups.ofLine line = shape.groups ∧ shape.unescaped? = none ∧ shape.HasPattern ∧
          shape.beyond = []) := by
  have hgroups (shape : Shape) (h : shape.IsFormOf line.toList) :
      Groups.ofLine line = shape.groups :=
    ofLine_of_read? (Shape.read?_eq_some_iff.2 h)
  refine ⟨Groups.ofLine_eq_nil_iff, fun fault => read_eq_error_iff, ?_⟩
  rw [exists_read_eq_ok_iff]
  exact exists_congr fun shape => and_congr_right fun h => (and_iff_right (hgroups shape h)).symm

example : read "use:{1..9223372036854775808}->x_#4294967296" =
    .error (.invalidNumber "9223372036854775808") := by decide +kernel

end Command

end Playback
