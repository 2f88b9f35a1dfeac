import Playback.Pattern.Fault
import Playback.Text.Digits

/-!
# Faults of command lines

Why a line is no command, or is a command that may not run. A fault names its cause; the wording is
in the `message` functions.
-/

namespace Playback

open Text

/-- A part that a command lacks. -/
inductive Missing where
  /-- A request or response source names neither its head nor its body. -/
  | headOrBody
  /-- A request or response source does not name exactly one side and one part. -/
  | oneHeadOrBody
  /-- No source is named. -/
  | source
  /-- An action has no target. -/
  | target
  deriving DecidableEq, Repr

/-- The wording of a missing part. -/
def Missing.message : Missing → String
  | .headOrBody => "request/response source needs head or body"
  | .oneHeadOrBody => "request/response source needs exactly one of head or body"
  | .source => "no source selected"
  | .target => "action has no target"

/-- Why a line has no command. -/
inductive SyntaxFault where
  /-- The line does not have the form of a command. -/
  | noMatch (line : String)
  /-- The line names a number of sources other than one. -/
  | sourceCount (count : Nat)
  /-- A text in braces contains the separator of source and action. -/
  | unescapedSeparator (text : String)
  /-- A number is no number or out of range. -/
  | invalidNumber (text : String)
  /-- A match body is no pattern. -/
  | invalidPattern (text : String) (cause : Pattern.Fault)
  /-- A part is missing. -/
  | incomplete (part : Missing)
  deriving DecidableEq, Repr

/-- The wording of a syntax fault. -/
def SyntaxFault.message : SyntaxFault → String
  | .noMatch line => "not a P4 command: " ++ line
  | .sourceCount count =>
    "illegal source/action combination: expected exactly one source, found " ++ natText count
  | .unescapedSeparator text => "unescaped '\x7d->' inside braces: " ++ text
  | .invalidNumber text => "invalid number: " ++ text
  | .invalidPattern text cause => "invalid match pattern '" ++ text ++ "': " ++ cause.message
  | .incomplete part => "incomplete source: " ++ part.message

/-- Why a command may not run. -/
inductive SemanticFault where
  /-- The command writes to the request. -/
  | selfWriteOnRequest
  /-- The command writes to a variable without naming it. -/
  | selfWriteOnNamelessVariable
  /-- The command neither tests nor acts. -/
  | nothingToDo
  deriving DecidableEq, Repr

/-- The wording of a semantic fault. -/
def SemanticFault.message : SemanticFault → String
  | .selfWriteOnRequest =>
    "requests are read-only; '->\x7b...\x7d' cannot target a request source"
  | .selfWriteOnNamelessVariable =>
    "'->\x7b...\x7d' on a variable source needs a variable name"
  | .nothingToDo => "command has neither a conditional nor an action"

/-- Why a line cannot run as a command. -/
inductive CommandFault where
  /-- The line has no command. -/
  | ofSyntax (fault : SyntaxFault)
  /-- The line's command may not run. -/
  | ofSemantics (fault : SemanticFault)
  deriving DecidableEq, Repr

/-- The wording of a command fault. -/
def CommandFault.message : CommandFault → String
  | .ofSyntax fault => "syntax error: " ++ fault.message
  | .ofSemantics fault => "semantic error: " ++ fault.message

end Playback
