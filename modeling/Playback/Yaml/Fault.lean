/-!
# Faults of YAML documents

Why a text is no YAML document, and the line where that was found.
-/

namespace Playback.Yaml

/-- Why a text is no YAML document. -/
inductive Cause where
  /-- A quoted text is not closed. -/
  | unclosed
  /-- A sign or text stands where none of its kind may. -/
  | unexpected
  /-- An escape in a quoted text is unknown. -/
  | badEscape
  /-- A line is not indented as it has to be. -/
  | badIndent
  /-- A tab stands where only blanks may indent or part. -/
  | tabIndent
  /-- A comment follows another part without a blank between them. -/
  | commentWithoutBlank
  /-- A key has no colon behind it. -/
  | missingColon
  /-- A key, an entry or a value stands where none may start. -/
  | misplaced
  /-- The first line of a block text holds something else. -/
  | badBlockHeader
  /-- A line before the document is no instruction, or one that stands twice. -/
  | badDirective
  /-- A tag is not well-formed, or its handle is not declared. -/
  | badTag
  /-- An anchor has no name, or an alias has none that stands for a whole part. -/
  | badAnchor
  /-- There are several documents. -/
  | severalDocuments
  /-- Parts lie too deep in one another, or are too many when aliases are written out. -/
  | tooLarge
  /-- The step limit was reached, which no text does. -/
  | unfinished
  deriving DecidableEq, Repr

/-- A fault of reading with the line where it was met. -/
structure Fault where
  /-- The line, counted from one. -/
  line : Nat
  /-- What is wrong. -/
  cause : Cause
  deriving DecidableEq, Repr

/-- The wording of a cause. -/
def Cause.message : Cause → String
  | .unclosed => "a quoted text is not closed"
  | .unexpected => "unexpected character"
  | .badEscape => "unknown escape in a quoted text"
  | .badIndent => "wrong indentation"
  | .tabIndent => "a tab cannot indent a line"
  | .commentWithoutBlank => "a comment needs a blank before it"
  | .missingColon => "a key needs a colon"
  | .misplaced => "a key, an entry or a value cannot start here"
  | .badBlockHeader => "the first line of a block text holds more than its signs"
  | .badDirective => "wrong or repeated directive"
  | .badTag => "wrong or undeclared tag"
  | .badAnchor => "wrong anchor, or alias without a whole part"
  | .severalDocuments => "more than one document"
  | .tooLarge => "too deep or too large a document"
  | .unfinished => "too long a document"

end Playback.Yaml
