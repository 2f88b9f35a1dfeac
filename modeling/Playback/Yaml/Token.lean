/-!
# Tokens of YAML documents

The signs and texts that a document consists of. Blocks have tokens for their starts and ends, which
the text shows by indentation.
-/

namespace Playback.Yaml

/-- How a text is written. -/
inductive Style where
  /-- Without quotes. -/
  | plain
  /-- In single quotes. -/
  | single
  /-- In double quotes. -/
  | double
  /-- As lines of its own below a sign. -/
  | block
  deriving DecidableEq, Repr

/-- A sign or text of a document. -/
inductive Token where
  /-- The end of the text. -/
  | streamEnd
  /-- An instruction that names the version of the language. -/
  | version
  /-- An instruction that says what a handle of tags stands for. -/
  | tagHandle (handle meaning : String)
  /-- Three dashes at the start of a line. -/
  | documentStart
  /-- Three dots at the start of a line. -/
  | documentEnd
  /-- The start of a list by indentation. -/
  | blockListStart
  /-- The start of a map by indentation. -/
  | blockMapStart
  /-- The end of a list or map by indentation. -/
  | blockEnd
  /-- An opening bracket. -/
  | flowListStart
  /-- A closing bracket. -/
  | flowListEnd
  /-- An opening brace, or the start of a map with one field in brackets. -/
  | flowMapStart
  /-- A closing brace, or the end of a map with one field in brackets. -/
  | flowMapEnd
  /-- A dash before an entry of a list. -/
  | blockEntry
  /-- A comma. -/
  | flowEntry
  /-- A question mark before a key, or the start of a key without one. -/
  | key
  /-- A colon before a value. -/
  | value
  /-- A reference to the part with an anchor. -/
  | alias (name : String)
  /-- A name for the part that follows. -/
  | anchor (name : String)
  /-- A tag, in two parts. -/
  | tag (handle suffix : String)
  /-- A text. -/
  | scalar (style : Style) (text : String)
  deriving DecidableEq, Repr

/-- A token with the column where it starts. -/
structure PlacedToken where
  /-- The token. -/
  token : Token
  /-- The column, counted from zero. -/
  column : Nat

end Playback.Yaml
