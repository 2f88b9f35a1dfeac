import Playback.Yaml.Schema

/-!
# Fields of YAML maps

No key stands twice in a map. The key `<<` is none of them: it adds the fields of further maps,
where those that are there already remain.
-/

namespace Playback.Yaml

/-- Why the fields of a map cannot be told. -/
inductive FieldFault where
  /-- A key stands twice. -/
  | repeatedKey
  /-- What the key `<<` adds is no map. -/
  | badMerge
  deriving DecidableEq, Repr

/-- The wording of a fault of fields. -/
def FieldFault.message : FieldFault → String
  | .repeatedKey => "a key stands twice in a map"
  | .badMerge => "only maps can be merged into a map"

namespace Node

/-- Whether a key adds the fields of further maps. -/
def isMergeKey : Node → Bool
  | .scalar .plain .untagged text => text == "<<"
  | _ => false

/-- Fields of a map, and those that its keys `<<` add. -/
structure Fields where
  /-- The fields. -/
  own : List (Node × Node)
  /-- What is added, the most important fields first. -/
  added : List (Node × Node)

mutual

/-- The fields that a key `<<` with a value adds: those of a map and of what is merged into it, or
those of several maps, the last one first. -/
def mergeFields : Node → Except FieldFault (List (Node × Node))
  | .scalar style _ text =>
    if style == .plain && isNullText text then .ok [] else .error .badMerge
  | .list items => mergeItems items
  | .map fields => (splitFields fields).map fun fields => fields.own ++ fields.added

/-- The fields that a list of values adds. -/
def mergeItems : List Node → Except FieldFault (List (Node × Node))
  | [] => .ok []
  | item :: rest => do
    let first ← mergeFields item
    return (← mergeItems rest) ++ first

/-- The fields of a map, and those that are merged into it. Of several keys `<<` the last one comes
first. -/
def splitFields : List (Node × Node) → Except FieldFault Fields
  | [] => .ok ⟨[], []⟩
  | (key, value) :: rest => do
    if key.isMergeKey then
      let added ← mergeFields value
      let fields ← splitFields rest
      return ⟨fields.own, fields.added ++ added⟩
    else
      let fields ← splitFields rest
      return ⟨(key, value) :: fields.own, fields.added⟩

end

/-- Whether one of the fields has a key. -/
def hasKey (fields : List (Node × Node)) (key : Node) : Bool :=
  fields.any fun (other, _) => other.same key

/-- Whether no two fields have the same key. -/
def keysDistinct : List (Node × Node) → Bool
  | [] => true
  | (key, _) :: rest => !hasKey rest key && keysDistinct rest

/-- The fields together with those of further ones whose keys they lack. -/
def addFields (fields : List (Node × Node)) : List (Node × Node) → List (Node × Node)
  | [] => fields
  | (key, value) :: rest =>
    addFields (if hasKey fields key then fields else fields ++ [(key, value)]) rest

/-- All fields of a map, each key once. -/
def allFields (fields : List (Node × Node)) : Except FieldFault (List (Node × Node)) := do
  let fields ← splitFields fields
  if keysDistinct fields.own then return addFields fields.own fields.added
  else throw .repeatedKey

/-- The node with the fields of all maps in it told, down to a depth. -/
def resolveTo : (depth : Nat) → Node → Except FieldFault Node
  | 0, node => .ok node
  | _ + 1, .scalar style tag text => .ok (.scalar style tag text)
  | n + 1, .list items => .list <$> items.mapM (resolveTo n)
  | n + 1, .map fields => do
    let fields ← allFields fields
    .map <$> fields.mapM fun (key, value) => return (← resolveTo n key, ← resolveTo n value)

/-- The node with the fields of all maps in it told. -/
def resolve (node : Node) : Except FieldFault Node :=
  resolveTo node.depth node

end Node

end Playback.Yaml
