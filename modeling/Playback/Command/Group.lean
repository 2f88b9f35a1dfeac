/-!
# Groups of a command line

The named parts of a command line, with their places in it. Lengths and places are counted in bytes
of UTF-8.
-/

namespace Playback

/-- The names of the parts of a command line. -/
inductive GroupName where
  /-- The whole gate. -/
  | gate
  /-- The sign that an action runs on failure too. -/
  | gateOptional
  /-- The sign that the source has to match. -/
  | gateTrue
  /-- The sign that the source must not match. -/
  | gateFalse
  /-- A source in the request or the response. -/
  | exchange
  /-- The word that names the request. -/
  | request
  /-- The word that names the response. -/
  | response
  /-- The word that names the headers. -/
  | head
  /-- The name of a header. -/
  | headKey
  /-- The word that names the body. -/
  | body
  /-- The match body of a request or response source. -/
  | exchangeMatch
  /-- A source among the variables. -/
  | variable
  /-- The sign of the chapter scope. -/
  | variableChapter
  /-- The sign of the session scope. -/
  | variableBounds
  /-- The sign of an outward search. -/
  | variableUp
  /-- The name of a variable. -/
  | variableName
  /-- The match body of a variable source. -/
  | variableMatch
  /-- A source in the use counts. -/
  | uses
  /-- The name of a chapter. -/
  | usesChapter
  /-- The condition on a use count. -/
  | usesCondition
  /-- The whole action. -/
  | action
  /-- The template of a replacement. -/
  | literal
  /-- The whole target of an extraction. -/
  | target
  /-- The sign of the chapter scope before a target. -/
  | targetChapter
  /-- The sign of the session scope before a target. -/
  | targetBounds
  /-- The name of a target. -/
  | targetName
  /-- The flag that asks whether the source matched. -/
  | tellMatched
  /-- The flag that asks how many values matched. -/
  | tellCount
  /-- The flag that asks for the result of the gate. -/
  | tellPassed
  /-- The suffix that spreads every value or one by its index. -/
  | spreadAll
  /-- The index of a spread value. -/
  | spreadIndex
  /-- The suffix that spreads the last value. -/
  | spreadLast
  /-- A part that command lines do not have. -/
  | other (label : String)
  deriving DecidableEq, Repr

namespace GroupName

/-- The labels of the parts, in the order in which the parts stand in a line. -/
def labels : List (GroupName × String) := [
  (.gate, "cond"),
  (.gateOptional, "optional"),
  (.gateTrue, "require_true"),
  (.gateFalse, "require_false"),
  (.exchange, "reqresp"),
  (.request, "request"),
  (.response, "response"),
  (.head, "head"),
  (.headKey, "head_key"),
  (.body, "body"),
  (.exchangeMatch, "rr_match"),
  (.variable, "variable"),
  (.variableChapter, "var_chapter"),
  (.variableBounds, "var_bounds"),
  (.variableUp, "search_up"),
  (.variableName, "var_name"),
  (.variableMatch, "var_match"),
  (.uses, "use"),
  (.usesChapter, "use_chapter"),
  (.usesCondition, "use_expr"),
  (.action, "action"),
  (.literal, "literal"),
  (.target, "target"),
  (.targetChapter, "target_chapter"),
  (.targetBounds, "target_bounds"),
  (.targetName, "target_name"),
  (.tellMatched, "flag_exists"),
  (.tellCount, "flag_count"),
  (.tellPassed, "flag_result"),
  (.spreadAll, "spread_hash"),
  (.spreadIndex, "spread_index"),
  (.spreadLast, "spread_last")]

/-- The label of a part. -/
def label (name : GroupName) : String :=
  match name with
  | .other label => label
  | _ => (labels.lookup name).getD ""

/-- The part with a label. -/
def ofLabel (label : String) : GroupName :=
  match labels.find? fun (_, l) => l == label with
  | some (name, _) => name
  | none => .other label

end GroupName

/-- A part of a command line. -/
structure Group where
  /-- The name of the part. -/
  name : GroupName
  /-- The text of the part. -/
  value : String
  /-- The place in the line where the part starts. -/
  start : Nat
  /-- The place in the line where the part ends. -/
  stop : Nat
  deriving DecidableEq, Repr

/-- The parts of a line, or any other list of parts. -/
abbrev Groups := List Group

namespace Groups

/-- The text of the first part with a name. -/
def value? (groups : Groups) (name : GroupName) : Option String :=
  (groups.find? fun g => g.name == name).map (·.value)

/-- Whether there is a part with a name. -/
def has (groups : Groups) (name : GroupName) : Bool :=
  groups.any fun g => g.name == name

end Groups

/-- The number of bytes of a text in UTF-8. -/
def byteLength (cs : List Char) : Nat :=
  cs.foldr (fun c length => c.utf8Size + length) 0

/-- A text in which parts are named: parts may lie inside others. -/
inductive Layout where
  /-- Nothing. -/
  | nothing
  /-- Text outside of named parts. -/
  | text (cs : List Char)
  /-- A named part. -/
  | part (name : GroupName) (inner : Layout)
  /-- One text behind the other. -/
  | beside (a b : Layout)

namespace Layout

instance : Append Layout := ⟨beside⟩

/-- A named part that is plain text. -/
def leaf (name : GroupName) (cs : List Char) : Layout :=
  .part name (.text cs)

/-- A layout that is there only under a condition. -/
def onlyIf (condition : Bool) (layout : Layout) : Layout :=
  if condition then layout else .nothing

/-- The layout of a value that may be missing. -/
def ofOption (value : Option α) (layout : α → Layout) : Layout :=
  (value.map layout).getD .nothing

/-- The text of a layout. -/
def chars : Layout → List Char
  | .nothing => []
  | .text cs => cs
  | .part _ inner => inner.chars
  | .beside a b => a.chars ++ b.chars

/-- The named parts of a layout that starts at a place: each one before those inside it. -/
def groups (start : Nat) : Layout → Groups
  | .nothing | .text _ => []
  | .part name inner =>
    ⟨name, String.ofList inner.chars, start, start + byteLength inner.chars⟩ ::
      inner.groups start
  | .beside a b => a.groups start ++ b.groups (start + byteLength a.chars)

end Layout

end Playback
