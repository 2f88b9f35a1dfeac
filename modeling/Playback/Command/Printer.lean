import Playback.Command.Shape

/-!
# Writing commands

A command is written as the line of its shape.
-/

namespace Playback

open Text

/-- The shape of a source. -/
def Source.shape : Source → SourceShape
  | .head side key pattern =>
    .exchange side (.head (key.map String.toList)) (pattern.map (·.text.toList))
  | .body side pattern => .exchange side .body (pattern.map (·.text.toList))
  | .variable scope up name pattern =>
    .variable scope up (name.map String.toList) (pattern.map (·.text.toList))
  | .uses chapter condition => .uses (chapter.map String.toList) (condition.map CountExpr.chars)

/-- The shape of a spread suffix. -/
def Spread.shape : Spread → SpreadShape
  | .none => .none
  | .all => .hash Option.none
  | .last => .last
  | .index n => .hash (some (natDigits n))

/-- The shape of a target. -/
def Target.shape (t : Target) : TargetShape :=
  ⟨t.scope, t.name.toList, t.tellMatched, t.tellCount, t.tellPassed, t.spread.shape⟩

/-- The shape of an action. -/
def Action.shape : Action → ActionShape
  | .replace template => .literal template.text.toList
  | .extract target => .target target.shape

namespace Command

/-- The shape of a command. -/
def shape (c : Command) : Shape :=
  ⟨c.gate, c.source.shape, c.action.map Action.shape⟩

/-- The line of a command. -/
def text (c : Command) : String :=
  String.ofList c.shape.chars

end Command

end Playback
