import Playback.Command.Basic
import Playback.Command.Group

/-!
# The form of command lines

A shape is a line that has the form of a command, taken apart but not interpreted: its match bodies
need not be patterns and its numbers need not be in range. Shapes are read from lines and laid out
as lines again.
-/

namespace Playback

open Text

/-- The part of a message that a source reads. -/
inductive PartShape where
  /-- The headers, or the one with a key. -/
  | head (key : Option (List Char))
  /-- The body. -/
  | body
  deriving DecidableEq, Repr

/-- The form of a source. -/
inductive SourceShape where
  /-- A part of a message, with a match body. -/
  | exchange (side : Side) (part : PartShape) (pattern : Option (List Char))
  /-- A variable or all of a scope, with a match body. -/
  | variable (scope : Scope) (up : Bool) (name : Option (List Char)) (pattern : Option (List Char))
  /-- A use count, with a condition. -/
  | uses (chapter : Option (List Char)) (condition : Option (List Char))
  deriving DecidableEq, Repr

/-- The form of a spread suffix. -/
inductive SpreadShape where
  /-- No suffix. -/
  | none
  /-- Every value, or the one with an index. -/
  | hash (index : Option (List Char))
  /-- The last value. -/
  | last
  deriving DecidableEq, Repr

/-- The form of an extraction's target. -/
structure TargetShape where
  /-- The scope. -/
  scope : Scope
  /-- The name. -/
  name : List Char
  /-- Whether the first flag is set. -/
  tellMatched : Bool
  /-- Whether the second flag is set. -/
  tellCount : Bool
  /-- Whether the third flag is set. -/
  tellPassed : Bool
  /-- The spread suffix. -/
  spread : SpreadShape
  deriving DecidableEq, Repr

/-- The form of an action. -/
inductive ActionShape where
  /-- A replacement by a literal. -/
  | literal (cs : List Char)
  /-- An extraction. -/
  | target (shape : TargetShape)
  deriving DecidableEq, Repr

/-- The form of a command line. -/
structure Shape where
  /-- The gate. -/
  gate : Option Gate
  /-- The source. -/
  source : SourceShape
  /-- The action. -/
  action : Option ActionShape
  deriving DecidableEq, Repr

/-! ## Laying out -/

/-- The layout of a gate. -/
def Gate.layout (gate : Gate) : Layout :=
  .part .gate <|
    .onlyIf gate.optional (.leaf .gateOptional ['~']) ++
      if gate.expected then .leaf .gateTrue ['?'] else .leaf .gateFalse ['!']

/-- The layout of a scope sign, with a name for each sign. -/
def Scope.layout (chapterName boundsName : GroupName) : Scope → Layout
  | .local => .nothing
  | .chapter => .leaf chapterName ['&']
  | .testBounds => .leaf boundsName ['%']

/-- The layout of a key in brackets. -/
def bracketLayout (name : GroupName) (key : Option (List Char)) : Layout :=
  .ofOption key fun cs => .text ['['] ++ .leaf name cs ++ .text [']']

/-- The layout of a match body or condition in braces behind a colon. -/
def braceLayout (name : GroupName) (body : Option (List Char)) : Layout :=
  .ofOption body fun cs => .text [':', '{'] ++ .leaf name cs ++ .text ['}']

/-- The layout of a source. -/
def SourceShape.layout : SourceShape → Layout
  | .exchange side part pattern =>
    .part .exchange <|
      (match side with
        | .request => Layout.leaf .request "request".toList
        | .response => Layout.leaf .response "response".toList) ++
      .text [':'] ++
      (match part with
        | .head key => Layout.leaf .head "head".toList ++ bracketLayout .headKey key
        | .body => Layout.leaf .body "body".toList) ++
      braceLayout .exchangeMatch pattern
  | .variable scope up name pattern =>
    .part .variable <|
      scope.layout .variableChapter .variableBounds ++
      .onlyIf up (.leaf .variableUp ['^']) ++
      .text "var".toList ++
      bracketLayout .variableName name ++
      braceLayout .variableMatch pattern
  | .uses chapter condition =>
    .part .uses <|
      .text "use".toList ++ bracketLayout .usesChapter chapter ++
      braceLayout .usesCondition condition

/-- The layout of a spread suffix. -/
def SpreadShape.layout : SpreadShape → Layout
  | .none => .nothing
  | .hash index => .part .spreadAll (.text ['_', '#'] ++ .ofOption index (.leaf .spreadIndex))
  | .last => .leaf .spreadLast ['_', '?']

/-- The layout of a target. -/
def TargetShape.layout (target : TargetShape) : Layout :=
  .part .target <|
    target.scope.layout .targetChapter .targetBounds ++
    .leaf .targetName target.name ++
    .onlyIf target.tellMatched (.leaf .tellMatched ['?']) ++
    .onlyIf target.tellCount (.leaf .tellCount ['#']) ++
    .onlyIf target.tellPassed (.leaf .tellPassed ['@']) ++
    target.spread.layout

/-- The layout of an action. -/
def ActionShape.layout (action : ActionShape) : Layout :=
  .part .action <|
    .text ['-', '>'] ++
    match action with
    | .literal cs => .text ['{'] ++ .leaf .literal cs ++ .text ['}']
    | .target t => t.layout

/-- The layout of a line. -/
def Shape.layout (shape : Shape) : Layout :=
  .ofOption shape.gate Gate.layout ++ shape.source.layout ++
    .ofOption shape.action ActionShape.layout

/-- The text of a line. -/
def Shape.chars (shape : Shape) : List Char :=
  shape.layout.chars

/-! ## Reading -/

/-- The characters of names. -/
def isNameChar (c : Char) : Bool :=
  c.isAlphanum || c == '_' || c == '.' || c == '-'

/-- Whether a text is a name: it starts with a letter, has only name characters and does not end in
an underscore, so that a spread suffix can follow. -/
def isName (cs : List Char) : Bool :=
  cs.head?.any Char.isAlpha && cs.all isNameChar && cs.getLast? != some '_'

/-- Whether a text is a decimal number without leading zeros. -/
def isPlainNumber (cs : List Char) : Bool :=
  !cs.isEmpty && cs.all isDigit && (cs == ['0'] || cs.head? != some '0')

/-- Whether a text is a term of a condition on counts. -/
def isTermText (cs : List Char) : Bool :=
  match cutAt? ['.', '.'] cs with
  | some (low, high) => isPlainNumber low && isPlainNumber high
  | none =>
    match cs with
    | '>' :: '=' :: digits | '<' :: '=' :: digits => isPlainNumber digits
    | '>' :: digits | '<' :: digits => isPlainNumber digits
    | digits => isPlainNumber digits

/-- Whether a text is a condition on counts. -/
def isConditionText (cs : List Char) : Bool :=
  (splitChar ',' cs).all isTermText

/-- A gate at the start of a text, and what follows. -/
def readGate : List Char → Option Gate × List Char
  | '~' :: '?' :: rest => (some ⟨true, true⟩, rest)
  | '~' :: '!' :: rest => (some ⟨true, false⟩, rest)
  | '?' :: rest => (some ⟨false, true⟩, rest)
  | '!' :: rest => (some ⟨false, false⟩, rest)
  | cs => (none, cs)

/-- A scope sign at the start of a text, and what follows. -/
def readScope : List Char → Scope × List Char
  | '&' :: rest => (.chapter, rest)
  | '%' :: rest => (.testBounds, rest)
  | cs => (.local, cs)

/-- A fixed character at the start of a text, and what follows. -/
def readFlag (flag : Char) : List Char → Bool × List Char
  | [] => (false, [])
  | c :: rest => if c = flag then (true, rest) else (false, c :: rest)

/-- A spread suffix that is a whole text. -/
def readSpread : List Char → Option SpreadShape
  | [] => some .none
  | ['_', '?'] => some .last
  | ['_', '#'] => some (.hash none)
  | '_' :: '#' :: index => if isPlainNumber index then some (.hash (some index)) else none
  | _ => none

/-- The text without underscores at its end, and those underscores. -/
def splitUnderscores (cs : List Char) : List Char × List Char :=
  ((cs.reverse.dropWhile (· == '_')).reverse, (cs.reverse.takeWhile (· == '_')).reverse)

/-- A target that is a whole text. Underscores behind the name belong to the spread suffix. -/
def readTarget (cs : List Char) : Option TargetShape :=
  let (scope, cs) := readScope cs
  let (name, underscores) := splitUnderscores (cs.takeWhile isNameChar)
  let (tellMatched, rest) := readFlag '?' (underscores ++ cs.dropWhile isNameChar)
  let (tellCount, rest) := readFlag '#' rest
  let (tellPassed, rest) := readFlag '@' rest
  if isName name then
    (readSpread rest).map fun spread => ⟨scope, name, tellMatched, tellCount, tellPassed, spread⟩
  else none

/-- An action that is a whole text, or no action where the text is empty. -/
def readAction : List Char → Option (Option ActionShape)
  | [] => some none
  | '-' :: '>' :: '{' :: rest =>
    let inner := rest.dropLast
    if rest.getLast? = some '}' && !inner.contains '\n' then some (some (.literal inner)) else none
  | '-' :: '>' :: target => (readTarget target).map fun t => some (.target t)
  | _ => none

/-- A match body up to the first closing brace behind which an action or the end follows, and that
action. -/
def readBody : List Char → Option (List Char × Option ActionShape)
  | [] => none
  | c :: rest =>
    if c = '\n' then none
    else
      match if c = '}' then readAction rest else none with
      | some action => some ([], action)
      | none => (readBody rest).map fun (body, action) => (c :: body, action)

/-- A match body, if there is one, and the action behind it. -/
def readMatch : List Char → Option (Option (List Char) × Option ActionShape)
  | ':' :: '{' :: rest => (readBody rest).map fun (body, action) => (some body, action)
  | cs => (readAction cs).map fun action => (none, action)

/-- A condition, if there is one, and the action behind it. -/
def readCondition : List Char → Option (Option (List Char) × Option ActionShape)
  | ':' :: '{' :: rest =>
    match cutAt? ['}'] rest with
    | some (condition, behind) =>
      if isConditionText condition then
        (readAction behind).map fun action => (some condition, action)
      else none
    | none => none
  | cs => (readAction cs).map fun action => (none, action)

/-- A key in brackets that satisfies `valid`, if there is a bracket, and what follows. -/
def readKey (valid : List Char → Bool) : List Char → Option (Option (List Char) × List Char)
  | '[' :: rest =>
    match cutAt? [']'] rest with
    | some (key, behind) => if valid key then some (some key, behind) else none
    | none => none
  | cs => some (none, cs)

/-- A request or response source behind the word for its side, and the action behind it. -/
def readExchange (side : Side) (cs : List Char) : Option (SourceShape × Option ActionShape) :=
  match afterPrefix? "head".toList cs with
  | some rest => do
    let (key, rest) ← readKey (!·.isEmpty) rest
    let (pattern, action) ← readMatch rest
    return (.exchange side (.head key) pattern, action)
  | none => do
    let rest ← afterPrefix? "body".toList cs
    let (pattern, action) ← readMatch rest
    return (.exchange side .body pattern, action)

/-- A variable source, and the action behind it. -/
def readVariable (cs : List Char) : Option (SourceShape × Option ActionShape) := do
  let (scope, cs) := readScope cs
  let (up, cs) := readFlag '^' cs
  let rest ← afterPrefix? "var".toList cs
  let (name, rest) ← readKey isName rest
  let (pattern, action) ← readMatch rest
  return (.variable scope up name pattern, action)

/-- A use count source, and the action behind it. -/
def readUses (cs : List Char) : Option (SourceShape × Option ActionShape) := do
  let rest ← afterPrefix? "use".toList cs
  let (chapter, rest) ← readKey (!·.isEmpty) rest
  let (condition, action) ← readCondition rest
  return (.uses chapter condition, action)

/-- A source of any kind, and the action behind it. -/
def readSource (cs : List Char) : Option (SourceShape × Option ActionShape) :=
  match afterPrefix? "request:".toList cs with
  | some rest => readExchange .request rest
  | none =>
    match afterPrefix? "response:".toList cs with
    | some rest => readExchange .response rest
    | none => readVariable cs <|> readUses cs

/-- The shape of a line, if it has the form of a command. -/
def Shape.read? (line : List Char) : Option Shape :=
  let (gate, rest) := readGate line
  (readSource rest).map fun (source, action) => ⟨gate, source, action⟩

/-- The named parts of a line; none if it does not have the form of a command. -/
def Groups.ofLine (line : String) : Groups :=
  match Shape.read? line.toList with
  | some shape => shape.layout.groups 0
  | none => []

end Playback
