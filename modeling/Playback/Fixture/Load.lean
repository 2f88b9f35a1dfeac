import Playback.Fixture.Decode
import Playback.Fixture.Folder

/-!
# Loading fixtures

A fixture is read from a named file, or from one of two files in the working folder.
-/

namespace Playback

/-- Why a fixture cannot be loaded. -/
inductive LoadFault where
  /-- Its file cannot be read. -/
  | unreadable (fault : ReadFault)
  /-- No file is named, and the folder has none of its own. -/
  | notFound (folder : String)
  /-- The text of its file is no fixture. -/
  | undecodable (fault : DecodeFault)
  /-- It has problems. -/
  | invalid (problems : List Problem)
  deriving DecidableEq, Repr

/-- The wording of a load fault. -/
def LoadFault.message : LoadFault → String
  | .unreadable fault => "io error: " ++ fault.message
  | .notFound folder => "no p4tape.yml or p4tape.yaml in " ++ folder
  | .undecodable fault => "yaml parse error: " ++ fault.message
  | .invalid problems =>
    "validation errors:\n  - " ++ String.intercalate "\n  - " (problems.map (·.message))

namespace Fixture

/-- The names of the files that are looked for when none is named, the preferred one first. -/
def defaultNames : List String :=
  ["p4tape.yml", "p4tape.yaml"]

/-- The name of the file to read. -/
def fileName? (folder : Folder) (name : Option String) : Option String :=
  name <|> defaultNames.find? fun name => (folder.entry? name).isSome

/-- A fixture without problems. -/
def validate (f : Fixture) : Except LoadFault Unit :=
  if f.problems.isEmpty then .ok () else .error (.invalid f.problems)

/-- Load the fixture of a named file, or the one of the folder. -/
def load (folder : Folder) (name : Option String) : Except LoadFault Fixture :=
  match fileName? folder name with
  | none => .error (.notFound folder.path)
  | some name =>
    match folder.readText name with
    | .error fault => .error (.unreadable fault)
    | .ok s =>
      match read s with
      | .error fault => .error (.undecodable fault)
      | .ok f =>
        match f.validate with
        | .error fault => .error fault
        | .ok () => .ok f

end Fixture

end Playback
