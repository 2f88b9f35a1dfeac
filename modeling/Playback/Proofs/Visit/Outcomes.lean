import Playback.Command.Build
import Playback.Proofs.Visit.FailedGate

/-!
# What outcomes tell

The outcome of a command is meant to say how its gate has decided and whether it has an action. Of
one kind of command it does not: an optional one that only tests is checked whether its gate passes
or fails. The outcome of every other command says what it is meant to say.
-/

namespace Playback

/-- What an outcome is meant to say of a command whose source has matched or not. Where a command is
skipped its gate has failed, where it is checked its gate has passed and there is no action, and
where it is applied there is an action and the result of the gate is told. -/
def Outcome.Tells (c : Command) (matched : Bool) : Outcome → Prop
  | .skipped => c.GateFails matched
  | .checked => ¬ c.GateFails matched ∧ c.action = none
  | .applied passed => c.action ≠ none ∧ (passed = false ↔ c.GateFails matched)

/-- How the gate and the action of a command, whose source has matched or not, decide its
outcome. -/
structure Outcome.DecidedBy (outcome : Outcome) (c : Command) (matched : Bool) : Prop where
  /-- A command is skipped when its gate fails and it is not optional. -/
  skipped : outcome = .skipped ↔ c.GateFails matched ∧ c.isOptional = false
  /-- It is checked when there is no action and it is not skipped. -/
  checked : outcome = .checked ↔
    c.action = none ∧ (c.GateFails matched → c.isOptional = true)
  /-- It is applied when there is an action and it is not skipped, and then the result of the gate
  is told. -/
  applied : ∀ passed, outcome = .applied passed ↔
    c.action ≠ none ∧ (passed = false ↔ c.GateFails matched) ∧
      (c.GateFails matched → c.isOptional = true)
  /-- The outcome says what it is meant to say unless the gate fails, the command is optional and
  there is no action. -/
  tells : outcome.Tells c matched ↔
    ¬ (c.GateFails matched ∧ c.isOptional = true ∧ c.action = none)

/-- The outcome of a command by the result of its gate. -/
theorem Visit.outcome_execute_eq (v : Visit) (c : Command) :
    (v.execute c).2 =
      if c.passes (v.find c.source).matched = false ∧ c.isOptional = false then .skipped
      else if c.action = none then .checked
      else .applied (c.passes (v.find c.source).matched) := by
  cases hpassed : c.passes (v.find c.source).matched <;> cases hoptional : c.isOptional <;>
    cases haction : c.action <;> simp [execute, hpassed, hoptional, haction]

/-- The gate and the action of a command decide its outcome, which says what it is meant to say
unless the command is optional, has no action and its gate fails: then it is checked. -/
theorem Visit.decidedBy_execute (v : Visit) (c : Command) :
    (v.execute c).2.DecidedBy c (v.find c.source).matched := by
  rw [outcome_execute_eq]
  cases hpassed : c.passes (v.find c.source).matched with
  | true =>
    have hpasses : ¬ c.GateFails (v.find c.source).matched := by
      rw [Command.gateFails_iff, hpassed]
      exact Bool.noConfusion
    by_cases haction : c.action = none <;> constructor <;>
      simp [Outcome.Tells, hpasses, haction]
  | false =>
    have hfails : c.GateFails (v.find c.source).matched := Command.gateFails_iff.2 hpassed
    by_cases haction : c.action = none <;> cases hoptional : c.isOptional <;> constructor <;>
      simp [Outcome.Tells, hfails, hoptional, haction]

/-- A visit of which nothing was recorded. -/
def Visit.unrecorded : Visit :=
  ⟨.empty, .empty, .empty, 0⟩

/-- An optional command that only tests whether the request has a body. -/
def Command.maybeBody : Command :=
  ⟨some ⟨true, true⟩, .body .request none, none⟩

/-- There is no body and the gate fails, and yet the command is checked. -/
theorem Visit.not_tells_maybeBody :
    Command.compile "~?request:body" = .ok Command.maybeBody ∧
      Command.maybeBody.GateFails (unrecorded.find Command.maybeBody.source).matched ∧
      (unrecorded.execute Command.maybeBody).2 = .checked ∧
      ¬ (unrecorded.execute Command.maybeBody).2.Tells Command.maybeBody
        (unrecorded.find Command.maybeBody.source).matched := by
  have hfails : Command.maybeBody.GateFails
      (unrecorded.find Command.maybeBody.source).matched := by
    change (unrecorded.find Command.maybeBody.source).matched = !true
    decide +kernel
  have hchecked : (unrecorded.execute Command.maybeBody).2 = .checked := by decide +kernel
  refine ⟨by decide +kernel, hfails, hchecked, fun htells => ?_⟩
  rw [hchecked] at htells
  exact htells.1 hfails

end Playback
