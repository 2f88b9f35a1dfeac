import Playback.Count
import Playback.Pattern.Basic
import Playback.Template

/-!
# Commands

A command reads a source, may test it by a gate, and may act: replace what the source matched by a
template, or extract its values into variables.
-/

namespace Playback

/-- The test of a command. -/
structure Gate where
  /-- When the test fails the action still runs, and writes the failure. -/
  optional : Bool
  /-- Whether the source has to match, or must not. -/
  expected : Bool
  deriving DecidableEq, Repr

/-- The two messages of an exchange. -/
inductive Side where
  /-- The request. -/
  | request
  /-- The response. -/
  | response
  deriving DecidableEq, Repr

/-- Where a command reads. -/
inductive Source where
  /-- The values of one header, or of all headers. -/
  | head (side : Side) (key : Option String) (pattern : Option Pattern)
  /-- The body. -/
  | body (side : Side) (pattern : Option Pattern)
  /-- One variable, or all variables of a scope. With `up`, one variable is looked for from its
  scope outward. -/
  | variable (scope : Scope) (up : Bool) (name : Option String) (pattern : Option Pattern)
  /-- The use count of the visited chapter or of a named one. -/
  | uses (chapter : Option String) (condition : Option CountExpr)
  deriving DecidableEq

/-- Which of several values an extraction writes one by one. -/
inductive Spread where
  /-- None of them. -/
  | none
  /-- All of them, numbered from zero. -/
  | all
  /-- The last one. -/
  | last
  /-- The one with an index. -/
  | index (n : Nat)
  deriving DecidableEq, Repr

/-- What an extraction writes. -/
structure Target where
  /-- The scope of the variables. -/
  scope : Scope
  /-- The variable for the first value. -/
  name : String
  /-- Also write whether the source matched. -/
  tellMatched : Bool
  /-- Also write how many values matched. -/
  tellCount : Bool
  /-- Also write the result of the gate. -/
  tellPassed : Bool
  /-- Which values to write one by one. -/
  spread : Spread
  deriving DecidableEq, Repr

/-- What a command does. -/
inductive Action where
  /-- Replace what the source matched by a template. -/
  | replace (template : Template)
  /-- Extract values into variables. -/
  | extract (target : Target)
  deriving DecidableEq, Repr

/-- A command. -/
structure Command where
  /-- The test. -/
  gate : Option Gate
  /-- The source. -/
  source : Source
  /-- The action. -/
  action : Option Action
  deriving DecidableEq

/-- The pattern of a source. -/
def Source.pattern? : Source → Option Pattern
  | .head _ _ pattern | .body _ pattern | .variable _ _ _ pattern => pattern
  | .uses _ _ => none

/-- Whether a source lies in the request. -/
def Source.isRequest : Source → Bool
  | .head .request _ _ | .body .request _ => true
  | _ => false

/-- Whether a source is all variables of a scope. -/
def Source.isNameless : Source → Bool
  | .variable _ _ name _ => name.isNone
  | _ => false

/-- Whether an action replaces what the source matched. -/
def Action.isReplacement : Action → Bool
  | .replace _ => true
  | .extract _ => false

namespace Command

/-- Whether a command tests or acts. -/
def testsOrActs (c : Command) : Bool :=
  c.gate.isSome || c.action.isSome

/-- Whether the gate passes, given whether the source has matched. Without a gate a replacement
always passes, and all else when the source has matched. -/
def passes (c : Command) (matched : Bool) : Bool :=
  match c.gate with
  | some gate => matched == gate.expected
  | none => matched || c.action.any (·.isReplacement)

/-- Whether the action runs also when the gate fails. -/
def isOptional (c : Command) : Bool :=
  c.gate.any (·.optional)

/-- Why a command may not run, if it may not. -/
def check (c : Command) : Except SemanticFault Unit :=
  if !c.testsOrActs then .error .nothingToDo
  else if c.action.any (·.isReplacement) then
    if c.source.isRequest then .error .selfWriteOnRequest
    else if c.source.isNameless then .error .selfWriteOnNamelessVariable
    else .ok ()
  else .ok ()

end Command

end Playback
