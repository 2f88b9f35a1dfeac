import Playback.Yaml.BlockText
import Playback.Yaml.PlainText
import Playback.Yaml.Property
import Playback.Yaml.QuotedText

/-!
# Token streams

Tokens are found one after the other, as far as they are asked for. While a part that comes next can
still become a key, more tokens are looked for: a colon decides on it.
-/

namespace Playback.Yaml.Scan

/-- Add a token that starts at this place. -/
def pushHere (token : Token) : Scan Unit := do
  push token (← get).mark.column

/-- Close the map with one field that is open in the brackets of this level, if there is one. -/
def closePairMap : Scan Unit := do
  let s ← get
  match s.pairMaps with
  | .openAt level :: rest =>
    if level = s.level then
      set { s with mapOpen := false, pairMaps := .closed :: rest }
      pushHere .flowMapEnd
  | _ => return ()

/-- The end of the text. -/
def endStream : Scan Unit := do
  modify fun s =>
    if s.mark.column = 0 then s else { s with mark := ⟨s.mark.index, s.mark.line + 1, 0⟩ }
  let s ← get
  if s.keys.any fun key => key.required && key.possible then fail .missingColon
  set { s with keys := s.keys.map fun key : PendingKey => { key with possible := false } }
  unroll (-1)
  removeKey
  allowKey false
  pushHere .streamEnd

/-- A directive in front of a document. -/
def takeDirective : Scan Unit := do
  unroll (-1)
  removeKey
  allowKey false
  let start := (← get).mark.column
  push (← directive) start

/-- The sign of the start or of the end of a document. Nothing but a comment stands behind the sign
of the end. -/
def takeMarker (token : Token) : Scan Unit := do
  unroll (-1)
  removeKey
  allowKey false
  pushHere token
  skipSigns 3
  if token = .documentEnd then
    discard <| toLineEnd true
    if !endsLine (← remaining) then fail .unexpected

/-- An opening bracket or brace. Brackets and braces lie at most 255 deep in one another. -/
def openFlow (token : Token) : Scan Unit := do
  saveKey
  rollColumn
  if 255 ≤ (← get).level then fail .tooLarge
  modify fun s => { s with keys := .impossible :: s.keys, level := s.level + 1 }
  allowKey true
  let start := (← get).mark.column
  skipSigns 1
  modify fun s =>
    if token = .flowMapStart then { s with mapOpen := true }
    else { s with pairMaps := .closed :: s.pairMaps }
  discard <| toLineEnd true
  push token start

/-- A closing bracket or brace. A colon may follow it without a blank behind the colon. -/
def closeFlow (token : Token) : Scan Unit := do
  if !(← inFlow) then fail .unexpected
  removeKey
  if token = .flowListEnd then
    closePairMap
    modify fun s => { s with pairMaps := s.pairMaps.tail }
  modify fun s => { s with keys := s.keys.tail, level := s.level - 1 }
  allowKey false
  let start := (← get).mark.column
  skipSigns 1
  discard <| toLineEnd true
  if ← inFlow then modify fun s => { s with adjacentAt := s.mark.index }
  push token start

/-- A comma. -/
def takeComma : Scan Unit := do
  removeKey
  allowKey true
  closePairMap
  let start := (← get).mark.column
  skipSigns 1
  discard <| toLineEnd true
  push .flowEntry start

/-- Whether an anchor or a tag that starts a line is the last token that has not been taken. -/
def followsProperty (s : Scanner) : Bool :=
  if s.taken < s.tokens.size then
    match s.tokens.back? with
    | some ⟨.anchor _, 0⟩ | some ⟨.tag _ _, 0⟩ => true
    | _ => false
  else false

/-- A dash before an entry of a list. Tabs must not part it from another one. -/
def takeDash : Scan Unit := do
  if ← inFlow then fail .misplaced
  let s ← get
  if !s.keyAllowed then fail .misplaced
  if followsProperty s && s.mark.column = 0 && decide (-1 < s.indent) then fail .badIndent
  let start := s.mark.column
  skipSigns 1
  roll start none .blockListStart
  let blanks ← toLineEnd true
  let rest ← remaining
  if blanks.contains '\t' && rest.head? = some '-' && startsBlank rest.tail then fail .tabIndent
  if rest.head?.any fun c => isBreak c || isFlowSign c then rollColumn
  removeKey
  allowKey true
  push .blockEntry start

/-- Move past blanks, line ends and comments behind the question mark of a key, and tell whether
there are blanks or line ends. -/
def keyGap (found : Bool) : (fuel : Nat) → Scan Bool
  | 0 => fail .unfinished
  | fuel + 1 => do
    match ← peek with
    | none => return found
    | some c =>
      if c = ' ' then
        skip 1
        keyGap true fuel
      else if isBreak c then
        skipBreak
        if !(← inFlow) then allowKey true
        keyGap true fuel
      else if c = '#' then
        skipLine
        keyGap found fuel
      else return found

/-- A question mark before a key. -/
def takeQuestion : Scan Unit := do
  let s ← get
  let start := s.mark.column
  if s.level = 0 then
    if !s.keyAllowed then fail .misplaced
    roll start none .blockMapStart
  else set { s with mapOpen := true }
  removeKey
  allowKey (s.level = 0)
  skipSigns 1
  if !(← keyGap false (s.size + 1)) then fail .unexpected
  if (← peek) = some '\t' then fail .tabIndent
  push .key start

/-- A colon behind a key or before a value. What stands before the colon becomes a key if it can be
one; in brackets it begins a map with one field. -/
def takeColon : Scan Unit := do
  let s ← get
  let start := s.mark
  let isPair := !s.pairMaps.isEmpty && !s.mapOpen
  if isPair then set { s with pairMaps := .openAt s.level :: s.pairMaps.tail }
  skipSigns 1
  if (← peek) = some '\t' then
    let blanks ← toLineEnd true
    if !blanks.contains ' ' && (← peek).any isNameChar then fail .tabIndent
  match s.keys with
  | ⟨true, _, place, mark⟩ :: _ =>
    insertAt place .key mark.column
    if isPair then
      if mark.line < start.line then fail .misplaced
      insertAt place .flowMapStart mark.column
    roll mark.column (some place) .blockMapStart
    rollColumn
    modify fun s => { s with keys := .impossible :: s.keys.tail }
    allowKey false
  | _ =>
    if isPair then push .flowMapStart start.column
    if s.level = 0 then
      if !s.keyAllowed then fail .misplaced
      roll start.column none .blockMapStart
    rollColumn
    allowKey (s.level = 0)
  push .value start.column

/-- An anchor, an alias or a tag, which `find` reads. -/
def takeProperty (find : Scan Token) : Scan Unit := do
  saveKey
  allowKey false
  let start := (← get).mark.column
  push (← find) start

/-- A block text. A key may start behind it. -/
def takeBlock (folded : Bool) : Scan Unit := do
  saveKey
  allowKey true
  let start := (← get).mark.column
  push (.scalar .block (← blockText folded)) start

/-- A quoted text. A colon may follow it without a blank behind the colon. -/
def takeQuoted (quote : Char) (style : Style) : Scan Unit := do
  saveKey
  allowKey false
  let s ← get
  let text ← quotedText quote
  toToken (s.size + 1)
  modify fun s => { s with adjacentAt := s.mark.index }
  push (.scalar style text) s.mark.column

/-- A plain text. -/
def takePlain : Scan Unit := do
  saveKey
  allowKey false
  let start := (← get).mark.column
  push (.scalar .plain (← plainText)) start

/-- A colon inside brackets or braces with no blank behind it. A list or map may follow only where
the colon stands directly behind its key. -/
def takeFlowColon (next : Option Char) : Scan Unit := do
  let s ← get
  if s.mark.index ≠ s.adjacentAt && (next = some '[' || next = some '{') then fail .misplaced
  takeColon

/-- The token of a sign or text that starts here. -/
def takeAt (c : Char) (rest : List Char) : Scan Unit := do
  let s ← get
  let flow := 0 < s.level
  let alone := startsBlank rest
  let next := rest.head?
  match c with
  | '[' => openFlow .flowListStart
  | '{' => openFlow .flowMapStart
  | ']' => closeFlow .flowListEnd
  | '}' => closeFlow .flowMapEnd
  | ',' => takeComma
  | '*' => takeProperty (do return .alias (← anchorName))
  | '&' => takeProperty (do return .anchor (← anchorName))
  | '!' => takeProperty tag
  | '\'' => takeQuoted c .single
  | '"' => takeQuoted c .double
  | '%' | '@' | '\x60' => fail .unexpected
  | '|' => if flow then takePlain else takeBlock false
  | '>' => if flow then takePlain else takeBlock true
  | '-' => if alone then takeDash else takePlain
  | '?' => if alone then takeQuestion else takePlain
  | ':' =>
    if alone then takeColon
    else if flow && (next.any isFlowSign || s.mark.index = s.adjacentAt) then takeFlowColon next
    else takePlain
  | _ => takePlain

/-- Find at least one more token, unless only blanks and comments are left of an open part. -/
def findToken : Scan Unit := do
  toToken ((← get).size + 1)
  dropStaleKeys
  unroll (← column)
  let s ← get
  match s.rest with
  | [] => endStream
  | c :: rest =>
    if s.mark.column = 0 && c = '%' then takeDirective
    else if s.mark.column = 0 && startsWithSign '-' s.rest then takeMarker .documentStart
    else if s.mark.column = 0 && startsWithSign '.' s.rest then takeMarker .documentEnd
    else if (s.mark.column : Int) < s.indent then fail .badIndent
    else takeAt c rest

/-- Find tokens until the next one to be taken is there and cannot be preceded by others any more.
-/
def findNext : (fuel : Nat) → Scan Unit
  | 0 => fail .unfinished
  | fuel + 1 => do
    let s ← get
    if s.tokens.size ≤ s.taken then
      findToken
      findNext fuel
    else
      dropStaleKeys
      let s ← get
      if s.keys.any fun key => key.possible && key.place == s.taken then
        findToken
        findNext fuel

/-- Take the next token. Every search for tokens passes characters or ends the text, which bounds
their number. -/
def next : Scan Token := do
  findNext (2 * (← get).size + 4)
  let s ← get
  set { s with taken := s.taken + 1 }
  match s.tokens[s.taken]? with
  | some placed => return placed.token
  | none => fail .unfinished

end Playback.Yaml.Scan
