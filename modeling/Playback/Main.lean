import Playback.CommandLine

/-!
# The program

Reads the files and the input that the arguments need, and writes what the run leaves behind.
-/

namespace Playback

/-- What stands under a name in the working folder. -/
def entryOnDisk (name : String) : IO (Option Entry) := do
  try
    return some (.file (← IO.FS.readBinFile name))
  catch fault =>
    match fault with
    | .noFileOrDirectory .. => return none
    | .inappropriateType .. => return some .folder
    | fault => return some (.unreadable (.other (toString fault)))

/-- The bytes of a stream that are still to come, behind those that have been read. -/
partial def readAll (stream : IO.FS.Stream) (read : ByteArray) : IO ByteArray := do
  let bytes ← stream.read 65536
  if bytes.isEmpty then return read else readAll stream (read ++ bytes)

/-- Run the program. -/
def runProgram (arguments : List String) : IO UInt32 := do
  let invocation := Invocation.read? arguments
  let names := (invocation.map (·.fileNames)).getD []
  let entries ← names.mapM fun name => return (name, ← entryOnDisk name)
  let input ← if invocation.any (·.readsInput) then readAll (← IO.getStdin) .empty else pure .empty
  let folder : Folder := ⟨(← IO.currentDir).toString, fun name => (entries.lookup name).join⟩
  let ending := runArguments arguments folder input
  IO.print ending.output
  IO.eprint ending.messages
  return UInt32.ofNat ending.status

end Playback

/-- The program. -/
def main (arguments : List String) : IO UInt32 :=
  Playback.runProgram arguments
