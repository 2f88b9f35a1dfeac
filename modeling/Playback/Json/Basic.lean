import Playback.Decimal.Shortest

/-!
# JSON values

The values that the endpoints read and print. The fields of an object keep their order.
-/

namespace Playback

open Text

/-- A JSON value. -/
inductive Json where
  /-- The null value. -/
  | null
  /-- A truth value. -/
  | bool (b : Bool)
  /-- An integer. -/
  | integer (n : Int)
  /-- A number that is read as a floating-point number. -/
  | real (x : Float)
  /-- A text. -/
  | text (s : String)
  /-- A list. -/
  | list (items : List Json)
  /-- An object. -/
  | object (fields : List (String × Json))

namespace Json

/-- The value of an object's field. Of several fields with the same name the last one counts. -/
def field? (name : String) : List (String × Json) → Option Json
  | [] => none
  | (n, value) :: rest => field? name rest <|> if n = name then some value else none

/-- What a value is, in the words of a message about a value of the wrong kind. -/
def describe : Json → String
  | .null => "null"
  | .bool b => "boolean \x60" ++ (if b then "true" else "false") ++ "\x60"
  | .integer n => "integer \x60" ++ intText n ++ "\x60"
  | .real x => "floating point \x60" ++ String.ofList (Decimal.realChars x) ++ "\x60"
  | .text s => "string \"" ++ s ++ "\""
  | .list _ => "sequence"
  | .object _ => "map"

end Json

end Playback
