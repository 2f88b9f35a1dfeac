import Playback.Fixture.Basic
import Playback.Text.Base64
import Playback.Yaml.Document
import Playback.Yaml.Fields

/-!
# Fixtures in YAML

A fixture is a map with the names of its parts; other names are left aside. What is absent or stands
for nothing takes its default, except texts and counts, which have to be given. Texts and counts may
be in quotes or not. The values of headers are stricter: what reads as a number, a truth value or
nothing has to be in quotes there. A tag that says that something is no text keeps it from being
one.
-/

namespace Playback

open Text Yaml

/-- What a part of a fixture has to be. -/
inductive Expected where
  /-- A text. -/
  | text
  /-- A whole number in its range. -/
  | integer
  /-- A list. -/
  | list
  /-- A map. -/
  | map
  /-- A text or a list of texts. -/
  | headerValue
  deriving DecidableEq, Repr

/-- The words for what a part has to be. -/
def Expected.message : Expected → String
  | .text => "a text"
  | .integer => "a whole number in range"
  | .list => "a list"
  | .map => "a map"
  | .headerValue => "a text or a list of texts, in quotes if it reads as a number or truth value"

/-- Why a text is no fixture. -/
inductive DecodeFault where
  /-- It is no YAML document. -/
  | document (fault : Yaml.Fault)
  /-- The fields of a map in it cannot be told. -/
  | fields (fault : Yaml.FieldFault)
  /-- A part of it is not what it has to be. -/
  | mismatch (expected : Expected)
  deriving DecidableEq, Repr

/-- The wording of a decoding fault. -/
def DecodeFault.message : DecodeFault → String
  | .document fault => "line " ++ natText fault.line ++ ": " ++ fault.cause.message
  | .fields fault => fault.message
  | .mismatch expected => "expected " ++ expected.message

/-- A part of a fixture as it is decoded. -/
abbrev Decoded := Except DecodeFault

namespace Decode

/-- The fault of a part that is not what it has to be. -/
def expected (e : Expected) : Decoded α :=
  .error (.mismatch e)

/-- The text that a scalar stands for. -/
def scalarText (tag : Tag) (s : String) : Decoded String :=
  match tag with
  | .null | .bool | .int | .float | .list | .map => expected .text
  | .binary =>
    match Base64.decodeText? (s.toList.filter (!Text.isBlank ·)) with
    | some s => .ok s
    | none => expected .text
  | .untagged | .text | .time | .bare | .other => .ok s

/-- The text that a node stands for. -/
def text (node : Node) : Decoded String :=
  match node with
  | .scalar _ tag s => if node.isNull && tag ≠ .text then expected .text else scalarText tag s
  | .list _ | .map _ => expected .text

/-- Whether an optional text is left out: its node stands for nothing, or is an empty text without
quotes. -/
def isLeftOut (node : Node) : Bool :=
  match node with
  | .scalar style tag s => tag == .null || node.isNull || (s == "" && style == .block)
  | .list _ | .map _ => false

/-- The text of a node, or none where it stands for nothing. -/
def optionalText (node : Node) : Decoded (Option String) :=
  if isLeftOut node then .ok none else some <$> text node

/-- The count that a node stands for. -/
def count (node : Node) : Decoded Int :=
  match node with
  | .scalar _ _ s =>
    match (integerOf? s).filter isCount with
    | some n => .ok n
    | none => expected .integer
  | .list _ | .map _ => expected .integer

/-- The status that a node stands for: 16 bits without a minus sign. -/
def status (node : Node) : Decoded Nat :=
  match node with
  | .scalar _ _ s =>
    let cs := trimChars s.toList
    match (naturalOf? (if cs.head? = some '+' then cs.drop 1 else cs)).filter (· < Nat.pow 2 16) with
    | some n => .ok n
    | none => expected .integer
  | .list _ | .map _ => expected .integer

/-- The items of a list. -/
def items (item : Node → Decoded α) (node : Node) : Decoded (List α) :=
  match node with
  | .list nodes => nodes.mapM item
  | .scalar _ _ _ | .map _ => if node.isNull then .ok [] else expected .list

/-- The fields of a map by the texts of their keys. -/
def fields (node : Node) : Decoded (List (String × Node)) :=
  match node with
  | .map fields => fields.mapM fun (key, value) => (·, value) <$> text key
  | .scalar _ _ _ | .list _ => if node.isNull then .ok [] else expected .map

/-- A table with a value for each field of a map. -/
def table (value : Node → Decoded α) (node : Node) : Decoded (Table α) := do
  let pairs ← (← fields node).mapM fun (key, node) => (key, ·) <$> value node
  return .ofList pairs

/-- A scalar where anything may stand: one that is not plain has to be a text. -/
def anyScalar (style : Style) (tag : Tag) (s : String) : Decoded Unit :=
  if tag == .null || (style == .plain && tag ≠ .text) then .ok () else discard <| scalarText tag s

mutual

/-- A node where anything may stand. -/
def anything : Node → Decoded Unit
  | .scalar style tag s => anyScalar style tag s
  | .list items => eachItem items
  | .map fields => eachField fields

/-- Nodes where anything may stand. -/
def eachItem : List Node → Decoded Unit
  | [] => .ok ()
  | item :: rest => do
    anything item
    eachItem rest

/-- Keys and values where anything may stand. -/
def eachField : List (Node × Node) → Decoded Unit
  | [] => .ok ()
  | (key, value) :: rest => do
    anything key
    anything value
    eachField rest

end

/-- The fields of a map with known names. Each of these stands once, and anything may stand under
other names. -/
def known (names : List String) (node : Node) : Decoded (List (String × Node)) := do
  let fields ← fields node
  let (inside, outside) := fields.partition fun (name, _) => names.contains name
  outside.forM fun (_, node) => anything node
  if (inside.map (·.1)).Nodup then return inside else expected .map

/-- The value of a field, or a default where it is absent. -/
def field (value : Node → Decoded α) (default : α) (name : String)
    (fields : List (String × Node)) : Decoded α :=
  match fields.lookup name with
  | some node => value node
  | none => .ok default

/-- A text in a header. -/
def headerText : Node → Decoded String
  | .scalar style tag s =>
    if tag == .null then expected .headerValue
    else if style ≠ .plain || tag == .text then scalarText tag s
    else
      match plainText? s with
      | some s => .ok s
      | none => expected .headerValue
  | .list _ | .map _ => expected .headerValue

/-- The values of a header. -/
def headerValues : Node → Decoded (List String)
  | .list nodes => nodes.mapM headerText
  | node => (fun s => [s]) <$> headerText node

/-- The headers of a map of names and values. -/
def headers (node : Node) : Decoded Headers := do
  let entries ← (← fields node).mapM fun (name, node) => (name, ·) <$> headerValues node
  return .ofPairs (entries.flatMap fun (name, values) => values.map (name, ·))

/-- A request. -/
def request (node : Node) : Decoded Request := do
  let parts ← known ["method", "path", "headers", "body"] node
  let method ← field text "" "method" parts
  let path ← field text "" "path" parts
  let head ← field headers .empty "headers" parts
  let body ← field text "" "body" parts
  return ⟨method, path, head, body⟩

/-- A response. -/
def response (node : Node) : Decoded Response := do
  let parts ← known ["status", "headers", "body"] node
  let code ← field status 200 "status" parts
  let head ← field headers .empty "headers" parts
  let body ← field text "" "body" parts
  return ⟨code, head, body⟩

/-- A fixture. -/
def fixture (node : Node) : Decoded Fixture := do
  let parts ← known ["chapter", "uses", "request", "response", "chapter_vars", "test_bounds",
    "chapter_uses", "sequences"] node
  let chapter ← field optionalText none "chapter" parts
  let uses ← field count 0 "uses" parts
  let request ← field request .empty "request" parts
  let response ← field response .empty "response" parts
  let chapterVars ← field (table text) .empty "chapter_vars" parts
  let testBounds ← field (table text) .empty "test_bounds" parts
  let chapterUses ← field (table count) .empty "chapter_uses" parts
  let sequences ← field (items (items text)) [] "sequences" parts
  return ⟨chapter, uses, request, response, chapterVars, testBounds, chapterUses, sequences⟩

end Decode

/-- The fixture that a text describes. -/
def Fixture.read (s : String) : Decoded Fixture :=
  match Yaml.read s with
  | .ok node =>
    match node.resolve with
    | .ok node => Decode.fixture node
    | .error fault => .error (.fields fault)
  | .error fault => .error (.document fault)

end Playback
