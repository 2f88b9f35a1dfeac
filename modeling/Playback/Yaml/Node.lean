import Playback.Yaml.Token

/-!
# YAML nodes

What a YAML document holds: scalars, lists and maps. A scalar keeps its text as it is written, with
its tag; how it is meant is up to those who read it.
-/

namespace Playback.Yaml

/-- What a scalar is said to be. -/
inductive Tag where
  /-- Nothing is said. -/
  | untagged
  /-- Nothing. -/
  | null
  /-- A truth value. -/
  | bool
  /-- A whole number. -/
  | int
  /-- A number. -/
  | float
  /-- A text. -/
  | text
  /-- Bytes in base 64. -/
  | binary
  /-- A list. -/
  | list
  /-- A map. -/
  | map
  /-- A point of time. -/
  | time
  /-- Not what its text reads as. -/
  | bare
  /-- Something else. -/
  | other
  deriving DecidableEq, Repr

/-- What all tags of the language itself start with. -/
def Tag.coreStart : String :=
  "tag:yaml.org,2002:"

/-- What is said by a tag that is written out. -/
def Tag.ofText (tag : String) : Tag :=
  let named := fun name => tag == coreStart ++ name
  if tag == "!" then .bare
  else if named "null" then .null
  else if named "bool" then .bool
  else if named "int" then .int
  else if named "float" then .float
  else if named "str" then .text
  else if named "binary" then .binary
  else if named "seq" then .list
  else if named "map" then .map
  else if named "timestamp" then .time
  else .other

/-- A part of a document. -/
inductive Node where
  /-- A text. -/
  | scalar (style : Style) (tag : Tag) (text : String)
  /-- A list. -/
  | list (items : List Node)
  /-- A map with its fields in the order in which they are written. -/
  | map (fields : List (Node × Node))

namespace Node

/-- The node of a place where nothing is written. -/
def absent : Node :=
  .scalar .plain .untagged "~"

mutual

/-- Whether two nodes say the same: the way in which scalars are written does not count. -/
def same : Node → Node → Bool
  | .scalar _ tag text, .scalar _ tag' text' => tag == tag' && text == text'
  | .list items, .list items' => sameItems items items'
  | .map fields, .map fields' => sameFields fields fields'
  | _, _ => false

/-- Whether two lists of nodes say the same. -/
def sameItems : List Node → List Node → Bool
  | [], [] => true
  | a :: rest, b :: rest' => same a b && sameItems rest rest'
  | _, _ => false

/-- Whether two lists of fields say the same. -/
def sameFields : List (Node × Node) → List (Node × Node) → Bool
  | [], [] => true
  | (key, value) :: rest, (key', value') :: rest' =>
    same key key' && same value value' && sameFields rest rest'
  | _, _ => false

end

mutual

/-- The number of lists and maps that lie in one another. -/
def depth : Node → Nat
  | .scalar _ _ _ => 0
  | .list items => depthOfItems items + 1
  | .map fields => depthOfFields fields + 1

/-- The greatest depth of nodes. -/
def depthOfItems : List Node → Nat
  | [] => 0
  | item :: rest => max item.depth (depthOfItems rest)

/-- The greatest depth of keys and values. -/
def depthOfFields : List (Node × Node) → Nat
  | [] => 0
  | (key, value) :: rest => max (max key.depth value.depth) (depthOfFields rest)

end

end Node

end Playback.Yaml
