import Playback.Yaml.Node
import Playback.Yaml.TokenStream

/-!
# YAML documents

The node that the tokens of a document describe. An alias stands for the whole part with its anchor.
A text holds one document; what follows it and is no document is left aside.
-/

namespace Playback.Yaml

/-- A name for a part of the document. -/
structure Anchor where
  /-- The name. -/
  name : String
  /-- The part, once it is whole, with its size. -/
  part : Option (Node × Nat)

/-- The state of reading a document. -/
structure Reading where
  /-- The scanner that finds the tokens. -/
  scanner : Scanner
  /-- The token that comes next, if it has been looked at. -/
  current : Option Token
  /-- What the handles of tags stand for. -/
  handles : List (String × String)
  /-- The anchors so far, the last one first. -/
  anchors : List Anchor
  /-- The number of parts so far, those of aliases included. -/
  size : Nat
  /-- The number of parts that aliases stand for. -/
  copied : Nat
  /-- The number of aliases. -/
  aliases : Nat

/-- A step of reading a document. -/
abbrev Read := StateT Reading (Except Fault)

/-- The depth to which lists and maps may lie in one another. -/
def maxDepth : Nat := 2000

/-- The number of parts that the aliases of a document may stand for. -/
def maxCopied : Nat := 1000000

namespace Read

/-- The fault of a cause at this place. -/
def fail (cause : Cause) : Read α := do
  throw ⟨(← get).scanner.mark.line + 1, cause⟩

/-- The token that comes next. -/
def peek : Read Token := do
  let r ← get
  match r.current with
  | some token => return token
  | none =>
    let (token, scanner) ← (Scan.next.run r.scanner : Except Fault (Token × Scanner))
    set { r with scanner := scanner, current := some token }
    return token

/-- Move past the token that comes next. -/
def take : Read Unit := do
  discard <| peek
  modify fun r => { r with current := none }

/-- Count parts of the document. -/
def count (parts : Nat) : Read Unit :=
  modify fun r => { r with size := r.size + parts }

/-- A scalar with nothing written. -/
def absent : Read Node := do
  count 1
  return .absent

/-! ## Anchors, aliases and tags -/

/-- What a tag is when its handle is written out. -/
def resolveTag (handle suffix : String) : Read Tag := do
  match (← get).handles.lookup handle with
  | some meaning => return .ofText (meaning ++ suffix)
  | none =>
    if handle = "!!" then return .ofText (Tag.coreStart ++ suffix)
    else if 2 ≤ handle.length && handle.endsWith "!" then fail .badTag
    else return .ofText (handle ++ suffix)

/-- The part that an alias stands for. -/
def copy (name : String) : Read Node := do
  let r ← get
  match (r.anchors.find? (·.name == name)).bind (·.part) with
  | some (node, size) =>
    if maxCopied < r.copied + size then fail .tooLarge
    set { r with
      size := r.size + size
      copied := r.copied + size
      aliases := r.aliases + 1 }
    return node
  | none => fail .badAnchor

/-- The tag that stands here, if there is one. -/
def readTag? : Read (Option Tag) := do
  match ← peek with
  | .tag handle suffix =>
    take
    some <$> resolveTag handle suffix
  | _ => return none

/-- The anchor that stands here, if there is one: the number of anchors before it. -/
def readAnchor? : Read (Option Nat) := do
  match ← peek with
  | .anchor name =>
    take
    let r ← get
    set { r with anchors := ⟨name, none⟩ :: r.anchors }
    return some r.anchors.length
  | _ => return none

/-- The anchor and the tag that stand here, in either order. -/
def readProperties : Read (Option Nat × Option Tag) := do
  match ← readAnchor? with
  | some number => return (some number, ← readTag?)
  | none =>
    match ← readTag? with
    | some tag => return (← readAnchor?, some tag)
    | none => return (none, none)

/-- Note the part that an anchor is for, where `before` is the number of parts before it. -/
def bindAnchor (anchor : Option Nat) (node : Node) (before : Nat) : Read Unit :=
  match anchor with
  | some number =>
    modify fun r =>
      let part := some (node, r.size - before)
      { r with
        anchors :=
          r.anchors.modify (r.anchors.length - 1 - number) fun a => { a with part := part } }
  | none => return ()

/-- The node of a text. An anchor makes the empty text in single quotes a plain one. -/
def scalarNode (anchored : Bool) (style : Style) (tag : Option Tag) (text : String) : Node :=
  let style := if anchored && text.isEmpty && style = .single then .plain else style
  .scalar style (tag.getD .untagged) text

/-! ## Nodes -/

/-- A collection that opens with a token. -/
inductive Opening where
  /-- A list without an indentation of its own, at its first dash. -/
  | dashes
  /-- A list by indentation. -/
  | blockList
  /-- A map by indentation. -/
  | blockMap
  /-- A list in brackets. -/
  | flowList
  /-- A map in braces. -/
  | flowMap

/-- The collection that a token opens. Lists and maps by indentation start only where `block` says
so, and lists without an indentation of their own where `dashes` does. -/
def opening? (block dashes : Bool) : Token → Option Opening
  | .blockEntry => if dashes then some .dashes else none
  | .blockListStart => if block then some .blockList else none
  | .blockMapStart => if block then some .blockMap else none
  | .flowListStart => some .flowList
  | .flowMapStart => some .flowMap
  | _ => none

mutual

/-- The node that starts here. -/
def readNode (block dashes : Bool) (depth : Nat) : (fuel : Nat) → Read Node
  | 0 => fail .unfinished
  | fuel + 1 => do
    match ← peek with
    | .alias name =>
      take
      copy name
    | _ =>
      let before := (← get).size
      let (anchor, tag) ← readProperties
      let token ← peek
      let node ←
        match opening? block dashes token with
        | some opening => do
          if maxDepth ≤ depth then fail .tooLarge
          count 2
          readCollection opening (depth + 1) fuel
        | none => do
          count 1
          match token with
          | .scalar style text => do
            take
            pure (scalarNode anchor.isSome style tag text)
          | _ => do
            if anchor.isNone && tag.isNone then fail .unexpected
            pure (scalarNode anchor.isSome .plain tag "")
      bindAnchor anchor node before
      return node
termination_by structural fuel => fuel

/-- The list or map that opens here. -/
def readCollection (opening : Opening) (depth : Nat) : (fuel : Nat) → Read Node
  | 0 => fail .unfinished
  | fuel + 1 => do
    match opening with
    | .dashes => readDashes [] depth fuel
    | .blockList =>
      take
      readBlockList [] depth fuel
    | .blockMap =>
      take
      readBlockMap [] depth fuel
    | .flowList =>
      take
      readFlowList [] true depth fuel
    | .flowMap =>
      take
      readFlowMap [] true depth fuel
termination_by structural fuel => fuel

/-- The node that starts here, or an absent one if a token stands here for which `ends` holds. -/
def readUnless (ends : Token → Bool) (block dashes : Bool) (depth : Nat) : (fuel : Nat) → Read Node
  | 0 => fail .unfinished
  | fuel + 1 => do
    if ends (← peek) then absent else readNode block dashes depth fuel
termination_by structural fuel => fuel

/-- The value of a field, behind its colon if there is one. -/
def readValue (ends : Token → Bool) (block : Bool) (depth : Nat) : (fuel : Nat) → Read Node
  | 0 => fail .unfinished
  | fuel + 1 => do
    if (← peek) = .value then
      take
      readUnless ends block block depth fuel
    else absent
termination_by structural fuel => fuel

/-- The entries of a list by indentation, behind those so far, the last one first. -/
def readBlockList (items : List Node) (depth : Nat) : (fuel : Nat) → Read Node
  | 0 => fail .unfinished
  | fuel + 1 => do
    let token ← peek
    take
    match token with
    | .blockEnd => return .list items.reverse
    | .blockEntry =>
      let item ← readUnless (fun t => t == .blockEntry || t == .blockEnd) true false depth fuel
      readBlockList (item :: items) depth fuel
    | _ => fail .unexpected
termination_by structural fuel => fuel

/-- The entries of a list without an indentation of its own. -/
def readDashes (items : List Node) (depth : Nat) : (fuel : Nat) → Read Node
  | 0 => fail .unfinished
  | fuel + 1 => do
    if (← peek) ≠ .blockEntry then return .list items.reverse
    take
    let ends (t : Token) := t == .blockEntry || t == .key || t == .value || t == .blockEnd
    let item ← readUnless ends true false depth fuel
    readDashes (item :: items) depth fuel
termination_by structural fuel => fuel

/-- The fields of a map by indentation. -/
def readBlockMap (fields : List (Node × Node)) (depth : Nat) : (fuel : Nat) → Read Node
  | 0 => fail .unfinished
  | fuel + 1 => do
    let ends (t : Token) := t == .key || t == .value || t == .blockEnd
    match ← peek with
    | .blockEnd =>
      take
      return .map fields.reverse
    | .key =>
      take
      let key ← readUnless ends true true depth fuel
      let value ← readValue ends true depth fuel
      readBlockMap ((key, value) :: fields) depth fuel
    | .value =>
      let key ← absent
      let value ← readValue ends true depth fuel
      readBlockMap ((key, value) :: fields) depth fuel
    | _ => fail .missingColon
termination_by structural fuel => fuel

/-- The fields of a map in braces. -/
def readFlowMap (fields : List (Node × Node)) (first : Bool) (depth : Nat) :
    (fuel : Nat) → Read Node
  | 0 => fail .unfinished
  | fuel + 1 => do
    if !first && (← peek) ≠ .flowMapEnd then
      if (← peek) ≠ .flowEntry then fail .unexpected
      take
    let ends (t : Token) := t == .flowEntry || t == .flowMapEnd
    match ← peek with
    | .flowMapEnd =>
      take
      return .map fields.reverse
    | .key =>
      take
      let key ← readUnless (fun t => t == .value || ends t) false false depth fuel
      let value ← readValue ends false depth fuel
      readFlowMap ((key, value) :: fields) false depth fuel
    | .value =>
      let key ← absent
      let value ← readValue ends false depth fuel
      readFlowMap ((key, value) :: fields) false depth fuel
    | _ =>
      let key ← readNode false false depth fuel
      let value ← absent
      readFlowMap ((key, value) :: fields) false depth fuel
termination_by structural fuel => fuel

/-- The items of a list in brackets. A key with its value is a map; where the key is absent, the
token that follows the sign of the key is passed over. -/
def readFlowList (items : List Node) (first : Bool) (depth : Nat) : (fuel : Nat) → Read Node
  | 0 => fail .unfinished
  | fuel + 1 => do
    if !first && (← peek) ≠ .flowListEnd then
      if (← peek) ≠ .flowEntry then fail .unexpected
      take
    let ends (t : Token) := t == .flowEntry || t == .flowListEnd
    match ← peek with
    | .flowListEnd =>
      take
      return .list items.reverse
    | .key =>
      take
      count 2
      let token ← peek
      let key ←
        if token == .value || ends token then do
          take
          absent
        else readNode false false (depth + 1) fuel
      let value ← readValue ends false (depth + 1) fuel
      readFlowList (.map [(key, value)] :: items) false depth fuel
    | _ =>
      let item ← readNode false false depth fuel
      readFlowList (item :: items) false depth fuel
termination_by structural fuel => fuel

end

/-! ## Documents -/

/-- The number of steps that no document needs. -/
def stepBound : Read Nat :=
  return 8 * (← get).scanner.size + 16

/-- Move past the signs of the ends of documents. -/
def skipEnds : (fuel : Nat) → Read Unit
  | 0 => fail .unfinished
  | fuel + 1 => do
    if (← peek) = .documentEnd then
      take
      skipEnds fuel

/-- Read the directives in front of a document. A version is given once. A directive takes back the
handles that were declared before it. -/
def readDirectives (versioned : Bool) : (fuel : Nat) → Read Unit
  | 0 => fail .unfinished
  | fuel + 1 => do
    let declare (handles : List (String × String)) : Read Unit := do
      modify fun r => { r with handles := handles }
      take
    match ← peek with
    | .version =>
      if versioned then fail .badDirective
      declare []
      readDirectives true fuel
    | .tagHandle handle meaning =>
      declare [(handle, meaning)]
      readDirectives versioned fuel
    | _ => return ()

/-- How a document begins. -/
inductive Beginning where
  /-- There is none. -/
  | none
  /-- With its first part. -/
  | bare
  /-- With three dashes. -/
  | marked

/-- The beginning of the document that comes next. One that follows another has to begin with three
dashes unless the other one is closed by dots. -/
def readBeginning (bareAllowed : Bool) : Read Beginning := do
  let fuel ← stepBound
  skipEnds fuel
  modify fun r => { r with handles := [] }
  match ← peek with
  | .streamEnd => return .none
  | .version | .tagHandle _ _ | .documentStart =>
    readDirectives false fuel
    if (← peek) ≠ .documentStart then fail .badDirective
    take
    return .marked
  | _ => if bareAllowed then return .bare else fail .unexpected

/-- Whether a document is empty if a token follows its beginning. -/
def isEmptyAt : Token → Bool
  | .version | .tagHandle _ _ | .documentStart | .documentEnd | .streamEnd => true
  | _ => false

/-- The content of the document that comes next. -/
def readContent : Read Node := do
  let fuel ← stepBound
  match ← readBeginning true with
  | .none => return .absent
  | .bare => readNode true false 0 fuel
  | .marked => if isEmptyAt (← peek) then return .absent else readNode true false 0 fuel

/-- Fail if no node starts here. Aliases do not reach parts of the documents before. -/
def expectNode : Read Unit := do
  match ← peek with
  | .alias _ => fail .badAnchor
  | _ =>
    let (anchor, tag) ← readProperties
    match ← peek with
    | .scalar _ _ => return ()
    | token =>
      if anchor.isNone && tag.isNone && (opening? true false token).isNone then fail .unexpected

/-- Whether another document comes next, as far as its first part tells. -/
def readFurther (bareAllowed : Bool) : Read Bool := do
  match ← readBeginning bareAllowed with
  | .none => return false
  | .bare => expectNode
  | .marked => if !isEmptyAt (← peek) then expectNode
  return true

/-- The end of a document, and whether dots close it. -/
def readEnd : Read Bool := do
  match ← peek with
  | .documentEnd =>
    take
    return true
  | .version | .tagHandle _ _ => fail .badDirective
  | _ => return false

/-- The only document of a text. Behind its end, only the start of another document counts. There
are at most ten times as many aliases as anchors, or less than a hundred. -/
def readDocument : Read Node := do
  let node ← readContent
  let closed ← readEnd
  let r ← get
  if 100 ≤ r.aliases && 10 * r.anchors.length < r.aliases then fail .tooLarge
  match (readFurther closed).run r with
  | .ok (true, _) => fail .severalDocuments
  | .ok (false, _) | .error _ => return node

end Read

/-- The document of a text. A mark of the byte order before it is left aside. -/
def read (s : String) : Except Fault Node :=
  let text := if s.toList.head? = some '\ufeff' then s.toList.drop 1 else s.toList
  (Read.readDocument.run ⟨.start text, none, [], [], 0, 0, 0⟩).map (·.1)

end Playback.Yaml
