import Playback.Yaml.Scanner

/-!
# Indentation and keys

Lists and maps outside of brackets and braces begin where the text is indented further and end where
it is indented less. A part becomes a key when a colon is met behind it, so tokens for the key and
for its map come before tokens that have been found already.
-/

namespace Playback.Yaml.Scan

/-! ## Indentation -/

/-- Go back to the indentations up to a column. The result holds the number of lists and maps that
end, the indentation and those around it. -/
def outdent (column : Int) (indent : Int) : List Indent → Nat × Int × List Indent
  | [] => (0, indent, [])
  | i :: rest =>
    if column < indent then
      let (ends, result) := outdent column i.outer rest
      (ends + (if i.isBlock then 1 else 0), result)
    else (0, indent, i :: rest)

/-- End the lists and maps that are indented beyond a column. -/
def unroll (column : Int) : Scan Unit := do
  let s ← get
  if s.level = 0 then
    let (ends, indent, indents) := outdent column s.indent s.indents
    let blockEnd : PlacedToken := ⟨.blockEnd, s.mark.column⟩
    set { s with
      indent := indent
      indents := indents
      tokens := s.tokens ++ Array.replicate ends blockEnd }

/-- Indent one column more than the list or map around, so that parts of its entries and values have
to stand beyond it. -/
def rollColumn : Scan Unit :=
  modify fun s =>
    if s.level = 0 && s.indents.head?.any (·.isBlock) then
      { s with indent := s.indent + 1, indents := ⟨s.indent, false⟩ :: s.indents }
    else s

/-- The innermost indentation of a list or map, and those around it. -/
def blockIndent (indent : Int) : List Indent → Int × List Indent
  | [] => (indent, [])
  | i :: rest => if i.isBlock then (indent, i :: rest) else blockIndent i.outer rest

/-- Go back to the indentation of the innermost list or map. -/
def unrollColumns : Scan Unit :=
  modify fun s =>
    let (indent, indents) := blockIndent s.indent s.indents
    { s with indent := indent, indents := indents }

/-- Begin a list or map in a column that lies beyond the indentation. Its token comes last, or
before those that follow a number of tokens. -/
def roll (column : Nat) (place : Option Nat) (token : Token) : Scan Unit := do
  let s ← get
  if s.level = 0 then
    let (indent, indents) :=
      match s.indents with
      | i :: rest =>
        if !i.isBlock && decide (s.indent ≤ (column : Int)) then (i.outer, rest)
        else (s.indent, s.indents)
      | [] => (s.indent, [])
    if indent < (column : Int) then
      set { s with indent := (column : Int), indents := ⟨indent, true⟩ :: indents }
      match place with
      | some place => insertAt place token column
      | none => push token column
    else set { s with indent := indent, indents := indents }

/-! ## Keys -/

/-- Note that the part that starts here becomes a key if a colon follows it. In the column of a map
it has to be one. -/
def saveKey : Scan Unit :=
  modify fun s =>
    if s.keyAllowed then
      let required :=
        s.level == 0 && s.indent == (s.mark.column : Int) && s.indents.head?.any (·.isBlock)
      { s with keys := ⟨true, required, s.tokens.size, s.mark⟩ :: s.keys.tail }
    else s

/-- Note that no part becomes a key by a colon that follows here. -/
def removeKey : Scan Unit := do
  let s ← get
  match s.keys with
  | [] => return ()
  | key :: rest =>
    if key.possible && key.required then fail .missingColon
    set { s with keys := { key with possible := false } :: rest }

/-- Outside of brackets and braces a key has to be followed by its colon on the same line and within
1024 characters. -/
def PendingKey.isStale (key : PendingKey) (mark : Mark) : Bool :=
  key.possible && (key.mark.line < mark.line || key.mark.index + 1024 < mark.index)

/-- Note which parts cannot become keys any more. -/
def dropStaleKeys : Scan Unit := do
  let s ← get
  if s.level = 0 then
    if s.keys.any fun key => PendingKey.isStale key s.mark && key.required then fail .missingColon
    set { s with
      keys := s.keys.map fun key =>
        if PendingKey.isStale key s.mark then { key with possible := false } else key }

end Playback.Yaml.Scan
