import Playback.Command.Shape

/-!
# From groups to commands

Named groups are judged as a legal combination and made into a command. The groups of a line come
from its shape; other lists of groups are judged by the same rules.
-/

namespace Playback

open Text

/-- The separator of source and action, which must not stand inside braces. -/
def separator : List Char :=
  ['}', '-', '>']

namespace Groups

/-- The number of kinds of source that have a group. -/
def sourceCount (groups : Groups) : Nat :=
  ([GroupName.exchange, .variable, .uses].filter groups.has).length

/-- The first text in braces that contains the separator. -/
def unescaped? (groups : Groups) : Option String :=
  [GroupName.exchangeMatch, .variableMatch, .literal].findSome? fun name =>
    (groups.value? name).filter fun text => occursIn separator text.toList

/-- Why the groups are no legal combination of source and action, if they are not. -/
def check (groups : Groups) : Except CommandFault Unit := do
  if groups.isEmpty then throw (.ofSyntax (.noMatch "no grammar match"))
  if groups.sourceCount ≠ 1 then throw (.ofSyntax (.sourceCount groups.sourceCount))
  if groups.has .exchange then
    let side := groups.has .request || groups.has .response
    let part := groups.has .head || groups.has .body
    if !side || !part then throw (.ofSyntax (.incomplete .headOrBody))
  if let some text := groups.unescaped? then throw (.ofSyntax (.unescapedSeparator text))
  if groups.has .literal then
    if groups.has .request then throw (.ofSemantics .selfWriteOnRequest)
    if groups.has .variable && !groups.has .variableName then
      throw (.ofSemantics .selfWriteOnNamelessVariable)

/-- Whether the groups are a legal combination. -/
def isLegal (groups : Groups) : Bool :=
  groups.check.isOk

/-- Whether the groups test or act. -/
def testsOrActs (groups : Groups) : Bool :=
  groups.has .gate || groups.has .action

/-- The gate of the groups. -/
def gate (groups : Groups) : Option Gate :=
  if groups.has .gate then some ⟨groups.has .gateOptional, !groups.has .gateFalse⟩ else none

/-- The scope that one of two sign groups names. -/
def scope (groups : Groups) (chapterName boundsName : GroupName) : Scope :=
  if groups.has chapterName then .chapter
  else if groups.has boundsName then .testBounds
  else .local

/-- The pattern of a match body, if there is one. -/
def pattern (groups : Groups) (name : GroupName) : Except SyntaxFault (Option Pattern) :=
  match groups.value? name with
  | none => .ok none
  | some text =>
    match Pattern.read text with
    | .ok pattern => .ok (some pattern)
    | .error cause => .error (.invalidPattern text cause)

/-- The source of groups that have a message source. -/
def exchangeSource (groups : Groups) : Except SyntaxFault Source := do
  let pattern ← groups.pattern .exchangeMatch
  let side : Option Side :=
    match groups.has .request, groups.has .response with
    | true, false => some .request
    | false, true => some .response
    | _, _ => none
  match side, groups.has .head, groups.has .body with
  | some side, true, false => return .head side (groups.value? .headKey) pattern
  | some side, false, true => return .body side pattern
  | _, _, _ => throw (.incomplete .oneHeadOrBody)

/-- The source of groups that have a variable source. -/
def variableSource (groups : Groups) : Except SyntaxFault Source := do
  let pattern ← groups.pattern .variableMatch
  return .variable (groups.scope .variableChapter .variableBounds) (groups.has .variableUp)
    (groups.value? .variableName) pattern

/-- The source of groups that have a use count source. -/
def usesSource (groups : Groups) : Except SyntaxFault Source := do
  let condition ←
    match groups.value? .usesCondition with
    | none => pure none
    | some text => some <$> CountExpr.read text
  return .uses (groups.value? .usesChapter) condition

/-- The source of the groups. -/
def source (groups : Groups) : Except SyntaxFault Source :=
  if groups.has .exchange then groups.exchangeSource
  else if groups.has .variable then groups.variableSource
  else if groups.has .uses then groups.usesSource
  else .error (.incomplete .source)

/-- The spread suffix of the groups. An index has 32 bits. -/
def spread (groups : Groups) : Except SyntaxFault Spread :=
  if groups.has .spreadLast then .ok .last
  else
    match groups.value? .spreadIndex with
    | some text =>
      match natBelow? (Nat.pow 2 32) text.toList with
      | some n => .ok (.index n)
      | none => .error (.invalidNumber text)
    | none => .ok (if groups.has .spreadAll then .all else .none)

/-- The action of the groups. -/
def action (groups : Groups) : Except SyntaxFault (Option Action) := do
  if !groups.has .action then return none
  match groups.value? .literal with
  | some text => return some (.replace ⟨text⟩)
  | none =>
    match groups.value? .targetName with
    | none => throw (.incomplete .target)
    | some name =>
      let spread ← groups.spread
      return some <| .extract
        ⟨groups.scope .targetChapter .targetBounds, name, groups.has .tellMatched,
          groups.has .tellCount, groups.has .tellPassed, spread⟩

/-- The command of the groups. -/
def command (groups : Groups) : Except SyntaxFault Command := do
  let source ← groups.source
  let action ← groups.action
  return ⟨groups.gate, source, action⟩

end Groups

namespace Command

/-- The command of a line. Whether it may run is not judged here. -/
def read (line : String) : Except SyntaxFault Command :=
  let groups := Groups.ofLine line
  if groups.isEmpty then .error (.noMatch line)
  else
    match groups.check with
    | .error (.ofSyntax fault) => .error fault
    | _ => groups.command

/-- The command of a line that may run. -/
def compile (line : String) : Except CommandFault Command :=
  match read line with
  | .error fault => .error (.ofSyntax fault)
  | .ok command =>
    match command.check with
    | .error fault => .error (.ofSemantics fault)
    | .ok () => .ok command

end Command

end Playback
