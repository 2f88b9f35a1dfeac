/-!
# Help texts

What the program tells about itself and about its commands: a sentence, the form of the arguments,
and lists of what may stand in them.
-/

namespace Playback

/-- What help is asked for. -/
inductive Topic where
  /-- The program as a whole. -/
  | program
  /-- The command that checks. -/
  | check
  /-- The command that replays. -/
  | replay
  /-- The command that prints help. -/
  | help
  deriving DecidableEq, Repr

/-- A list in a help text. -/
structure HelpList where
  /-- The title. -/
  title : String
  /-- What may stand in the arguments, each with a description. -/
  rows : List (String × String)

/-- A help text. -/
structure HelpPage where
  /-- What it tells about, in a sentence. -/
  about : String
  /-- The form of the arguments. -/
  usage : String
  /-- The lists below that. -/
  lists : List HelpList

namespace HelpList

/-- The width of the left column. -/
def width (list : HelpList) : Nat :=
  (list.rows.map (·.1.length)).foldl max 0

/-- The lines of a list, with the descriptions in a column of their own. -/
def lines (list : HelpList) : List String :=
  list.title :: list.rows.map fun (label, text) =>
    "  " ++ label ++ String.ofList (List.replicate (list.width - label.length) ' ') ++ "  " ++ text

end HelpList

/-- The text of a page: its parts with an empty line between them. -/
def HelpPage.text (page : HelpPage) : String :=
  let parts := [page.about] :: [page.usage] :: page.lists.map (·.lines)
  String.join (((parts.intersperse [""]).flatten).map (· ++ "\n"))

/-- The page on a topic. -/
def Topic.page : Topic → HelpPage
  | .program =>
    ⟨"P4 command language for matching, extracting and rewriting replayed HTTP exchanges",
      "Usage: p4tape <COMMAND>",
      [⟨"Commands:", [
        ("check", "Check whether P4 command lines are valid"),
        ("replay", "Replay one chapter visit from a fixture and print the resulting state"),
        ("help", "Print this message or the help of the given subcommand(s)")]⟩,
      ⟨"Options:", [
        ("-h, --help", "Print help"),
        ("-V, --version", "Print version")]⟩]⟩
  | .check =>
    ⟨"Check whether P4 command lines are valid",
      "Usage: p4tape check [OPTIONS]",
      [⟨"Options:", [
        ("    --command <COMMAND>", "Command line to check (skips stdin)"),
        ("    --fixture <FIXTURE>", "Check every sequence line of a fixture file"),
        ("-h, --help", "Print help")]⟩]⟩
  | .replay =>
    ⟨"Replay one chapter visit from a fixture and print the resulting state",
      "Usage: p4tape replay [OPTIONS]",
      [⟨"Options:", [
        ("    --fixture <FIXTURE>",
          "Fixture file (defaults to p4tape.yml or p4tape.yaml in the current directory)"),
        ("-h, --help", "Print help")]⟩]⟩
  | .help =>
    ⟨"Print this message or the help of the given subcommand(s)",
      "Usage: p4tape help [COMMAND]...",
      [⟨"Arguments:", [("[COMMAND]...", "Print help for the subcommand(s)")]⟩]⟩

end Playback
