import Playback.Json.Basic

/-!
# Printing JSON

On one line without blanks, or over several lines with two blanks for each level. Texts are quoted
with the shortest escapes; only the characters below 32, the quote and the backslash are escaped.
-/

namespace Playback.Json

open Text

/-- The hexadecimal digit of a number below 16. -/
def hexChar (n : Nat) : Char :=
  if n < 10 then Char.ofNat (48 + n) else Char.ofNat (87 + n)

/-- A character of a quoted text. -/
def escapeChar (c : Char) : List Char :=
  if c = '"' then ['\\', '"']
  else if c = '\\' then ['\\', '\\']
  else if c = '\n' then ['\\', 'n']
  else if c = '\r' then ['\\', 'r']
  else if c = '\t' then ['\\', 't']
  else if c = '\x08' then ['\\', 'b']
  else if c = '\x0c' then ['\\', 'f']
  else if c.toNat < 32 then ['\\', 'u', '0', '0', hexChar (c.toNat / 16), hexChar (c.toNat % 16)]
  else [c]

/-- A text in quotes. -/
def quoted (s : String) : List Char :=
  '"' :: s.toList.flatMap escapeChar ++ ['"']

/-- Texts with a separator between them. -/
def separated (separator : List Char) : List (List Char) → List Char
  | [] => []
  | [part] => part
  | part :: parts => part ++ separator ++ separated separator parts

/-- How the items of a list or object are set. -/
inductive Setting where
  /-- All on one line. -/
  | compact
  /-- Each on a line of its own; the items of the outermost lists and objects are set `level` deep,
  and those inside them one level deeper. -/
  | lines (level : Nat)
  deriving DecidableEq

/-- The setting of what lies inside an item. -/
def Setting.inner : Setting → Setting
  | .compact => .compact
  | .lines level => .lines (level + 1)

/-- A line end and the blanks before an item that is set at a level. -/
def newLine (level : Nat) : List Char :=
  '\n' :: List.replicate (2 * level) ' '

/-- Items between an opening and a closing character. -/
def Setting.enclose (setting : Setting) (opening closing : Char) (items : List (List Char)) :
    List Char :=
  if items.isEmpty then [opening, closing]
  else
    match setting with
    | .compact => opening :: separated [','] items ++ [closing]
    | .lines level =>
      opening :: newLine (level + 1) ++ separated (',' :: newLine (level + 1)) items ++
        newLine level ++ [closing]

/-- The colon behind the name of a field. -/
def Setting.colon : Setting → List Char
  | .compact => [':']
  | .lines _ => [':', ' ']

mutual

/-- The characters of a value. -/
def chars (setting : Setting) : Json → List Char
  | .null => "null".toList
  | .bool b => if b then "true".toList else "false".toList
  | .integer n => intDigits n
  | .real x => Decimal.realChars x
  | .text s => quoted s
  | .list items => setting.enclose '[' ']' (itemChars setting.inner items)
  | .object fields => setting.enclose '{' '}' (fieldChars setting.inner fields)

/-- The characters of each of several values. -/
def itemChars (setting : Setting) : List Json → List (List Char)
  | [] => []
  | item :: items => item.chars setting :: itemChars setting items

/-- The characters of each of several fields. -/
def fieldChars (setting : Setting) : List (String × Json) → List (List Char)
  | [] => []
  | (name, value) :: fields =>
    (quoted name ++ setting.colon ++ value.chars setting) :: fieldChars setting fields

end

/-- A value on one line. -/
def compact (value : Json) : String :=
  String.ofList (value.chars .compact)

/-- A value over several lines. -/
def pretty (value : Json) : String :=
  String.ofList (value.chars (.lines 0))

end Playback.Json
