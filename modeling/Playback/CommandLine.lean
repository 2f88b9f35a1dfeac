import Playback.Endpoint.Route
import Playback.Help

/-!
# The command line

The arguments of the program name one of the two endpoints or ask for help or the version.
-/

namespace Playback

/-- What the arguments ask for. -/
inductive Invocation where
  /-- The version. -/
  | version
  /-- Help on a topic. -/
  | help (topic : Topic)
  /-- A check. -/
  | check (arguments : CheckArguments)
  /-- A replay of a named fixture or of the folder's own. -/
  | replay (fixture : Option String)
  deriving DecidableEq, Repr

/-- An option with its value. -/
structure OptionValue where
  /-- The name of the option. -/
  name : String
  /-- The value. -/
  value : String
  deriving DecidableEq, Repr

/-- Whether an argument is a value and not an option. A single dash is a value. -/
def isValue (argument : String) : Bool :=
  argument.toList.head? != some '-' || argument == "-"

/-- An argument that holds one of the named options and its value, parted by an equals sign. -/
def attachedValue? (names : List String) (argument : String) : Option OptionValue :=
  names.findSome? fun name =>
    (Text.afterPrefix? (name.toList ++ ['=']) argument.toList).map fun value =>
      ⟨name, String.ofList value⟩

/-- Whether an argument begins with a dash and a letter, or is the long name of the same flag. -/
def isFlag (letter : Char) (long argument : String) : Bool :=
  argument == long || (Text.afterPrefix? ['-', letter] argument.toList).isSome

/-- What stands behind the name of an endpoint. -/
structure Options where
  /-- The options with their values, in order. -/
  values : List OptionValue
  /-- Whether help is asked for behind them; what follows that is not looked at. -/
  asksHelp : Bool

/-- The options with the named ones, if there is nothing else. Two dashes may end the arguments. -/
def readOptions? (names : List String) : List String → Option Options
  | [] => some ⟨[], false⟩
  | ["--"] => some ⟨[], false⟩
  | argument :: rest =>
    if isFlag 'h' "--help" argument then some ⟨[], true⟩
    else
      match attachedValue? names argument with
      | some option =>
        (readOptions? names rest).map fun o => { o with values := option :: o.values }
      | none =>
        match rest with
        | [] => none
        | value :: rest =>
          if names.contains argument && isValue value then
            (readOptions? names rest).map fun o =>
              { o with values := ⟨argument, value⟩ :: o.values }
          else none

/-- The value of an option that may be given once at most. -/
def onlyValue? (name : String) (options : List OptionValue) : Option (Option String) :=
  match options.filter (·.name == name) with
  | [] => some none
  | [option] => some (some option.value)
  | _ => none

namespace Invocation

/-- What arguments ask for, if they can be understood. The name of a fixture is not empty. A line to
check and a fixture exclude each other, unless help is asked for behind them. -/
def read? : List String → Option Invocation
  | [] => none
  | "check" :: rest => do
    let options ← readOptions? ["--command", "--fixture"] rest
    let command ← onlyValue? "--command" options.values
    let fixture ← onlyValue? "--fixture" options.values
    if fixture == some "" then none
    else if options.asksHelp then some (.help .check)
    else if command.isSome && fixture.isSome then none
    else some (.check ⟨command, fixture⟩)
  | "replay" :: rest => do
    let options ← readOptions? ["--fixture"] rest
    let fixture ← onlyValue? "--fixture" options.values
    if fixture == some "" then none
    else if options.asksHelp then some (.help .replay)
    else some (.replay fixture)
  | ["help"] => some (.help .program)
  | ["help", "check"] => some (.help .check)
  | ["help", "replay"] => some (.help .replay)
  | ["help", "help"] => some (.help .help)
  | argument :: _ =>
    if isFlag 'V' "--version" argument then some .version
    else if isFlag 'h' "--help" argument then some (.help .program)
    else none

/-- The names of the files that may be read. -/
def fileNames : Invocation → List String
  | .version | .help _ => []
  | .check arguments => arguments.fixture.toList
  | .replay fixture => (fixture.map fun name => [name]).getD Fixture.defaultNames

/-- Whether the input is read. -/
def readsInput : Invocation → Bool
  | .check ⟨none, none⟩ => true
  | _ => false

/-- Do what is asked for. -/
def run (invocation : Invocation) (folder : Folder) (input : ByteArray) : Ending :=
  match invocation with
  | .version => ⟨0, "p4tape 0.1.0\n", ""⟩
  | .help topic => ⟨0, topic.page.text, ""⟩
  | .check arguments => Endpoint.runRoute (Endpoint.ofCheck arguments folder input)
  | .replay fixture => Endpoint.runRoute (Endpoint.ofReplay fixture folder)

end Invocation

/-- The ending of a run whose arguments cannot be understood. -/
def Ending.usage : Ending :=
  ⟨2, "", Topic.program.page.text⟩

/-- The whole run for arguments, a folder and an input. -/
def runArguments (arguments : List String) (folder : Folder) (input : ByteArray) : Ending :=
  match Invocation.read? arguments with
  | some invocation => invocation.run folder input
  | none => .usage

end Playback
