import Playback.Endpoint.Basic
import Playback.Fixture.Load
import Playback.Json.Reader

/-!
# Routes

From the arguments, the working folder and the input to what has to be done. Lines to check come
from the arguments, from a fixture, or from the input: a JSON object with a command, or else lines
of text.
-/

namespace Playback

open Text

/-- The arguments of a check. -/
structure CheckArguments where
  /-- A line to check. -/
  command : Option String
  /-- A fixture whose lines to check. -/
  fixture : Option String
  deriving DecidableEq, Repr

/-- What is wrong with the command of a JSON object. -/
inductive CommandFieldFault where
  /-- There is none. -/
  | missing
  /-- It is no text but something that is described so. -/
  | notText (description : String)
  deriving DecidableEq, Repr

/-- The wording of what is wrong with a command. -/
def CommandFieldFault.message : CommandFieldFault → String
  | .missing => "missing field \x60command\x60"
  | .notText description => "invalid type: " ++ description ++ ", expected a string"

/-- Why it is not known what to do. -/
inductive RouteFault where
  /-- The fixture cannot be loaded. -/
  | fixture (fault : LoadFault)
  /-- The input cannot be read. -/
  | input (fault : ReadFault)
  /-- The input is an object without a command. -/
  | noCommandField (fault : CommandFieldFault)
  /-- The input has no lines. -/
  | noCommands
  deriving DecidableEq, Repr

/-- The wording of a route fault. -/
def RouteFault.message : RouteFault → String
  | .fixture fault => fault.message
  | .input fault => fault.message
  | .noCommandField fault =>
    "Unknown input format: expected a 'command' field (" ++ fault.message ++ ")"
  | .noCommands => "no commands provided on stdin"

/-- The command of an object. -/
def commandOf (fields : List (String × Json)) : Except CommandFieldFault String :=
  match Json.field? "command" fields with
  | none => .error .missing
  | some (.text line) => .ok line
  | some value => .error (.notText value.describe)

/-- The lines of a text without the blanks around them; lines without characters are left out. -/
def commandLines (s : String) : List String :=
  (((lines s.toList).map trimChars).filter (!·.isEmpty)).map String.ofList

/-- The lines to check that an input holds. -/
def linesOfInput (s : String) : Except RouteFault (List String) :=
  match Json.read? s with
  | some (.object fields) =>
    match commandOf fields with
    | .ok line => .ok [line]
    | .error fault => .error (.noCommandField fault)
  | _ =>
    let lines := commandLines s
    if lines.isEmpty then .error .noCommands else .ok lines

namespace Endpoint

/-- What to check. -/
def ofCheck (arguments : CheckArguments) (folder : Folder) (input : ByteArray) :
    Except RouteFault Endpoint :=
  match arguments.command, arguments.fixture with
  | some line, _ => .ok (.check [line])
  | none, some name =>
    match Fixture.load folder (some name) with
    | .ok fixture => .ok (.ofFixture fixture)
    | .error fault => .error (.fixture fault)
  | none, none =>
    match textOfBytes input with
    | .error fault => .error (.input fault)
    | .ok s => .check <$> linesOfInput s

/-- What to replay. -/
def ofReplay (name : Option String) (folder : Folder) : Except RouteFault Endpoint :=
  match Fixture.load folder name with
  | .ok fixture => .ok (.replay fixture)
  | .error fault => .error (.fixture fault)

/-- Do what a route leads to, or tell why it leads nowhere. -/
def runRoute (route : Except RouteFault Endpoint) : Ending :=
  match route with
  | .ok endpoint => endpoint.run
  | .error fault => .failure fault.message

end Endpoint

end Playback
