import Playback.Chapter
import Playback.Json.Printer

/-!
# Verdicts

What the endpoints conclude, its printed form and its exit status. A check prints one line for each
command line; a replay prints the state that it ends in.
-/

namespace Playback

/-- The verdict on a command line. -/
structure LineVerdict where
  /-- The line. -/
  line : String
  /-- The line of its command, or why it has none that may run. -/
  canonical : Except CommandFault String

/-- The verdict on a line. -/
def LineVerdict.of (line : String) : LineVerdict :=
  ⟨line, (Command.compile line).map (·.text)⟩

/-- Whether a line has a command that may run. -/
def LineVerdict.isValid (v : LineVerdict) : Bool :=
  v.canonical.isOk

/-- The printed form of a line's verdict. -/
def LineVerdict.json (v : LineVerdict) : Json :=
  .object <|
    [("command", .text v.line), ("valid", .bool v.isValid)] ++
      match v.canonical with
      | .ok line => [("canonical", .text line)]
      | .error fault => [("error", .text fault.message)]

/-- Headers as an object of lists. -/
def Headers.json (h : Headers) : Json :=
  .object (h.entries.map fun e => (e.name, .list (e.values.map .text)))

/-- A table as an object. -/
def Table.json (t : Table α) (value : α → Json) : Json :=
  .object (t.entries.map fun (key, v) => (key, value v))

/-- A response as an object. -/
def Response.json (r : Response) : Json :=
  .object [("status", .integer r.status), ("headers", r.headers.json), ("body", .text r.body)]

/-- A sequence that did not run as an object. -/
def Rejection.json (r : Rejection) : Json :=
  .object [("sequence", .integer r.sequence), ("line_index", .integer r.fault.index),
    ("line", .text r.fault.line), ("error", .text r.fault.cause.message)]

/-- The state after a replay as an object. -/
def Replay.json (r : Replay) : Json :=
  .object [
    ("chapter", .text r.chapter.name),
    ("uses", .integer r.chapter.uses),
    ("response", r.response.json),
    ("chapter_uses", r.store.chapterUses.json .integer),
    ("scopes", .object [
      ("chapter", r.store.chapter.json .text),
      ("test_bounds", r.store.testBounds.json .text)]),
    ("rejected", .list (r.report.rejected.map (·.json)))]

/-- What an endpoint concludes. -/
inductive Verdict where
  /-- The verdicts on lines. -/
  | check (lines : List LineVerdict)
  /-- The state after a replay. -/
  | replay (state : Replay)

namespace Verdict

/-- Whether every line is valid, or every sequence ran. -/
def accepted : Verdict → Bool
  | .check lines => lines.all (·.isValid)
  | .replay state => state.report.rejected.isEmpty

/-- The exit status. -/
def exitCode (v : Verdict) : Nat :=
  if v.accepted then 0 else 1

/-- The printed form. -/
def printed : Verdict → String
  | .check lines => lines.foldr (fun line rest => line.json.compact ++ "\n" ++ rest) ""
  | .replay state => state.json.pretty ++ "\n"

end Verdict

end Playback
