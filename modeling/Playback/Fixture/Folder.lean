import Playback.Text.Cut

/-!
# Folders

The files that a run can read. A folder is known by what its paths lead to; one that is held in
memory follows a path name by name.
-/

namespace Playback

open Text

/-- Why a file or stream cannot be read as a text. -/
inductive ReadFault where
  /-- There is no such file. -/
  | missing
  /-- The name is that of a folder. -/
  | isFolder
  /-- A name on the way is that of a file. -/
  | noFolder
  /-- The bytes are no UTF-8. -/
  | notText
  /-- The system says something else. -/
  | other (message : String)
  deriving DecidableEq, Repr

/-- The wording of a read fault. -/
def ReadFault.message : ReadFault → String
  | .missing => "No such file or directory (os error 2)"
  | .isFolder => "Is a directory (os error 21)"
  | .noFolder => "Not a directory (os error 20)"
  | .notText => "stream did not contain valid UTF-8"
  | .other message => message

/-- What stands under a name in a folder. -/
inductive Entry where
  /-- A file with its bytes. -/
  | file (bytes : ByteArray)
  /-- A folder. -/
  | folder
  /-- Something that cannot be read. -/
  | unreadable (fault : ReadFault)

/-- A folder: its own name, and what its paths lead to. -/
structure Folder where
  /-- The name of the folder. -/
  path : String
  /-- What a path leads to. -/
  entry? : String → Option Entry

/-- The text of bytes in UTF-8. -/
def textOfBytes (bytes : ByteArray) : Except ReadFault String :=
  match String.fromUTF8? bytes with
  | some s => .ok s
  | none => .error .notText

/-- The text of a file. -/
def Folder.readText (folder : Folder) (name : String) : Except ReadFault String :=
  match folder.entry? name with
  | some (.file bytes) => textOfBytes bytes
  | some .folder => .error .isFolder
  | some (.unreadable fault) => .error fault
  | none => .error .missing

/-- The names on the way to an entry. -/
abbrev Place := List (List Char)

/-- The names of a path. -/
def namesOf (path : String) : Place :=
  splitChar '/' path.toList

/-- Whether a name stays in the folder where it is looked up. -/
def staysHere (name : List Char) : Bool :=
  name == [] || name == ['.']

/-- What stands at a place. Every folder on the way to an entry is a folder too. -/
def entryAt? (entries : List (Place × Entry)) (place : Place) : Option Entry :=
  match entries.lookup place with
  | some entry => some entry
  | none => if entries.any (place.isPrefixOf ·.1) || place.isEmpty then some .folder else none

/-- What names lead to from a place. Nothing is known outside of the folder that the entries are in.
-/
def follow (entries : List (Place × Entry)) (place : Place) : Place → Option Entry
  | [] => entryAt? entries place
  | name :: rest =>
    match entryAt? entries place with
    | none => none
    | some .folder =>
      if staysHere name then follow entries place rest
      else if name = ['.', '.'] then
        if place.isEmpty then if rest.all staysHere then some .folder else none
        else follow entries place.dropLast rest
      else follow entries (place ++ [name]) rest
    | some _ => some (.unreadable .noFolder)

/-- What a path leads to in a folder with entries. An empty path leads nowhere, and of the paths
from the root only the root itself is known. -/
def entryOf? (entries : List (Place × Entry)) (path : String) : Option Entry :=
  match path.toList with
  | [] => none
  | '/' :: rest => if (splitChar '/' rest).all staysHere then some .folder else none
  | _ => follow entries [] (namesOf path)

/-- A folder that is held in memory, given by its name and by the paths of its entries. -/
def Folder.ofEntries (path : String) (entries : List (String × Entry)) : Folder :=
  ⟨path, entryOf? (entries.map fun (name, entry) => ((namesOf name).filter (!staysHere ·), entry))⟩

end Playback
