import Playback.Visit

/-!
# What commands do to a visit

A command that runs does one of six things to its visit. What none of the commands of a list changes
is not changed by running the list, and what every command keeps is kept.
-/

namespace Playback

/-- Whether the action of a command replaces what its source matched. -/
def Command.isReplacement (c : Command) : Bool :=
  c.action.any (·.isReplacement)

/-- A replacement has a template. -/
theorem Command.isReplacement_iff {c : Command} :
    c.isReplacement = true ↔ ∃ template, c.action = some (.replace template) := by
  rw [isReplacement]
  rcases c.action with _ | ⟨template | target⟩
  · exact iff_of_false Bool.false_ne_true fun ⟨_, h⟩ => (nomatch h)
  · exact iff_of_true rfl ⟨template, rfl⟩
  · exact iff_of_false Bool.false_ne_true fun ⟨_, h⟩ => (nomatch h)

namespace Visit

/-- The visits that a command may lead to. -/
inductive Effect (v : Visit) (c : Command) : Visit → Prop where
  /-- Nothing is written: the gate needed a match, or there is nothing to write. -/
  | nothing : Effect v c v
  /-- The entries of the target are written. -/
  | extract (target : Target) (passed : Bool) (haction : c.action = some (.extract target)) :
    Effect v c
      { v with store := v.store.setAll target.scope (target.entries (v.find c.source) passed) }
  /-- The variable that the command reads is set in the scope that the command names. -/
  | setVariable (scope : Scope) (up : Bool) (name : String) (pattern : Option Pattern)
      (value : String) (haction : c.isReplacement = true)
      (hsource : c.source = .variable scope up (some name) pattern) :
    Effect v c { v with store := v.store.set scope name value }
  /-- The use count that the command reads is set to one that the condition allows. -/
  | setUses (chapter : Option String) (condition : Option CountExpr) (uses : Int)
      (haction : c.isReplacement = true) (hsource : c.source = .uses chapter condition)
      (hallowed : countAllowed condition uses = true) :
    Effect v c (v.setUses chapter uses)
  /-- The body of the response is rewritten. -/
  | rewriteBody (pattern : Option Pattern) (render : List String → String)
      (haction : c.isReplacement = true) (hsource : c.source = .body .response pattern) :
    Effect v c
      { v with response := { v.response with body := replaceBody pattern render v.response.body } }
  /-- Values of headers of the response are rewritten. -/
  | rewriteHeaders (key : Option String) (pattern : Option Pattern)
      (render : List String → String) (haction : c.isReplacement = true)
      (hsource : c.source = .head .response key pattern) :
    Effect v c
      { v with response :=
        { v.response with headers := replaceHeaders key pattern render v.response.headers } }

/-- A replacement has one of the effects of its command. -/
theorem effect_replace (v : Visit) {c : Command} (h : c.isReplacement = true)
    (template : Template) (found : Finding) : Effect v c (v.replace c.source template found) := by
  cases hsource : c.source with
  | head side key pattern =>
    cases side with
    | request => exact .nothing
    | response => exact .rewriteHeaders key pattern _ h hsource
  | body side pattern =>
    cases side with
    | request => exact .nothing
    | response => exact .rewriteBody pattern _ h hsource
  | «variable» scope up name pattern =>
    cases name with
    | none => exact .nothing
    | some name => exact .setVariable scope up name pattern _ h hsource
  | uses chapter condition =>
    rw [replace]
    split
    · rename_i uses hcount
      obtain ⟨-, hallowed⟩ := Option.filter_eq_some_iff.1 hcount
      exact .setUses chapter condition uses h hsource hallowed
    · exact .nothing

/-- To record the failure of a replacement is one of the effects of its command. -/
theorem effect_recordFailure (v : Visit) {c : Command} (h : c.isReplacement = true) :
    Effect v c (v.recordFailure c.source) := by
  cases hsource : c.source with
  | «variable» scope up name pattern =>
    cases name with
    | none => exact .nothing
    | some name => exact .setVariable scope up name pattern _ h hsource
  | head side key pattern => exact .nothing
  | body side pattern => exact .nothing
  | uses chapter condition => exact .nothing

/-- A command that runs has one of its effects. -/
theorem effect_execute (v : Visit) (c : Command) : Effect v c (v.execute c).1 := by
  unfold execute
  dsimp only
  split
  · exact .nothing
  · cases haction : c.action with
    | none => exact .nothing
    | some action =>
      cases action with
      | extract target => exact .extract target _ haction
      | replace template =>
        have h : c.isReplacement = true := Command.isReplacement_iff.2 ⟨template, haction⟩
        dsimp only [act]
        split
        · exact effect_replace v h template _
        · exact effect_recordFailure v h

/-- A replacement whose gate passes is made. -/
theorem execute_of_passes {v : Visit} {c : Command} {template : Template}
    (haction : c.action = some (.replace template))
    (hpassed : c.passes (v.find c.source).matched = true) :
    v.execute c = (v.replace c.source template (v.find c.source), .applied true) := by
  simp [execute, act, haction, hpassed]

/-! ## Runs -/

theorem executeAll_cons (v : Visit) (c : Command) (commands : List Command) :
    v.executeAll (c :: commands) =
      (((v.execute c).1.executeAll commands).1,
        (v.execute c).2 :: ((v.execute c).1.executeAll commands).2) := rfl

theorem executeAll_append (v : Visit) (first second : List Command) :
    v.executeAll (first ++ second) =
      (((v.executeAll first).1.executeAll second).1,
        (v.executeAll first).2 ++ ((v.executeAll first).1.executeAll second).2) := by
  induction first generalizing v with
  | nil => rfl
  | cons c first ih => rw [List.cons_append, executeAll_cons, ih, executeAll_cons, List.cons_append]

/-- What each command keeps a list of commands keeps. -/
theorem executeAll_induction {P : Visit → Prop} {commands : List Command}
    (hstep : ∀ c ∈ commands, ∀ v, P v → P (v.execute c).1) {v : Visit} (h : P v) :
    P (v.executeAll commands).1 := by
  induction commands generalizing v with
  | nil => exact h
  | cons c commands ih =>
    rw [executeAll_cons]
    have hfirst : P (v.execute c).1 := hstep c List.mem_cons_self v h
    exact ih (fun d hd => hstep d (List.mem_cons_of_mem c hd)) hfirst

/-- A part of the visit that a list of commands changes is one that some command of it may write,
when the commands that may not write it leave it alone. -/
theorem exists_of_executeAll_ne (part : Visit → α) {Writes : Command → Prop}
    (hframe : ∀ c v, ¬ Writes c → part (v.execute c).1 = part v) {v : Visit}
    {commands : List Command} (h : part (v.executeAll commands).1 ≠ part v) :
    ∃ c ∈ commands, Writes c := by
  apply Classical.byContradiction
  intro hnone
  have hstep (c : Command) (hc : c ∈ commands) (w : Visit) (hw : part w = part v) :
      part (w.execute c).1 = part v :=
    (hframe c w fun hwrites => hnone ⟨c, hc, hwrites⟩).trans hw
  exact h (executeAll_induction hstep rfl)

end Visit

end Playback
