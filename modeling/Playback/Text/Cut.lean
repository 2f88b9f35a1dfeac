/-!
# Cutting texts

Finding, splitting and replacing short fixed texts inside a list of characters. A cut names the
part before the first occurrence and the part after it.
-/

namespace Playback.Text

/-- What follows `needle` when the text starts with it. -/
def afterPrefix? : List Char → List Char → Option (List Char)
  | [], cs => some cs
  | _ :: _, [] => none
  | n :: ns, c :: cs => if n = c then afterPrefix? ns cs else none

/-- The parts before and after the first occurrence of `needle`. -/
def cutAt? (needle : List Char) : List Char → Option (List Char × List Char)
  | [] => if needle.isEmpty then some ([], []) else none
  | c :: cs =>
    match afterPrefix? needle (c :: cs) with
    | some rest => some ([], rest)
    | none => (cutAt? needle cs).map fun (before, rest) => (c :: before, rest)

/-- Whether `needle` occurs in the text. -/
def occursIn (needle cs : List Char) : Bool :=
  (cutAt? needle cs).isSome

/-- The parts of a text between the characters for which `p` holds: one more than those. -/
def splitWhere (p : Char → Bool) : List Char → List (List Char)
  | [] => [[]]
  | c :: cs =>
    if p c then [] :: splitWhere p cs
    else
      match splitWhere p cs with
      | [] => [[c]]
      | part :: parts => (c :: part) :: parts

/-- The parts of a text between the occurrences of one character. -/
def splitChar (d : Char) (cs : List Char) : List (List Char) :=
  splitWhere (· == d) cs

/-- The lines of a text: a line ends at a line feed, which may follow a carriage return, and the
last line needs no end. -/
def lines (cs : List Char) : List (List Char) :=
  let parts := splitChar '\n' cs
  let ended := parts.dropLast.map fun line =>
    if line.getLast? = some '\r' then line.dropLast else line
  match parts.getLast? with
  | none | some [] => ended
  | some line => ended ++ [line]

end Playback.Text
