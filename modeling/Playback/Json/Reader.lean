import Playback.Json.Basic

/-!
# Reading JSON

A text is a JSON value with blanks around it, or nothing. Lists and objects may lie 127 deep.
Numbers without fraction and exponent are integers as far as 64 bits hold them.
-/

namespace Playback.Json

open Text

/-- The characters that may stand between the parts of a value. -/
def isSpace (c : Char) : Bool :=
  c == ' ' || c == '\n' || c == '\t' || c == '\r'

/-! ## Texts -/

/-- The number that four hexadecimal digits at the start of a text write, and what follows. -/
def readUnit : List Char → Option (Nat × List Char)
  | a :: b :: c :: d :: rest => do
    let a ← hexDigit? a
    let b ← hexDigit? b
    let c ← hexDigit? c
    let d ← hexDigit? d
    return (((a * 16 + b) * 16 + c) * 16 + d, rest)
  | _ => none

/-- The character behind `\u`, and what follows. A character beyond 16 bits takes two of these,
which must come as a pair. -/
def readEscapedUnit (cs : List Char) : Option (Char × List Char) := do
  let (high, rest) ← readUnit cs
  if 0xDC00 ≤ high ∧ high ≤ 0xDFFF then none
  else if 0xD800 ≤ high ∧ high ≤ 0xDBFF then
    match rest with
    | '\\' :: 'u' :: rest => do
      let (low, rest) ← readUnit rest
      if 0xDC00 ≤ low ∧ low ≤ 0xDFFF then
        some (Char.ofNat (0x10000 + (high - 0xD800) * 0x400 + (low - 0xDC00)), rest)
      else none
    | _ => none
  else some (Char.ofNat high, rest)

/-- The character that a character behind a backslash stands for. -/
def escaped? : Char → Option Char
  | '"' => some '"'
  | '\\' => some '\\'
  | '/' => some '/'
  | 'b' => some '\x08'
  | 'f' => some '\x0c'
  | 'n' => some '\n'
  | 'r' => some '\r'
  | 't' => some '\t'
  | _ => none

/-- The text up to the closing quote, and what follows. `fuel` exceeds the number of characters. -/
def readText : (fuel : Nat) → List Char → Option (List Char × List Char)
  | 0, _ | _, [] => none
  | _, '"' :: rest => some ([], rest)
  | fuel + 1, '\\' :: 'u' :: rest => do
    let (c, rest) ← readEscapedUnit rest
    let (cs, rest) ← readText fuel rest
    return (c :: cs, rest)
  | fuel + 1, '\\' :: c :: rest => do
    let c ← escaped? c
    let (cs, rest) ← readText fuel rest
    return (c :: cs, rest)
  | fuel + 1, c :: rest =>
    if c.toNat < 0x20 ∨ c = '\\' then none
    else (readText fuel rest).map fun (cs, rest) => (c :: cs, rest)

/-! ## Numbers -/

/-- A significand of 64 bits that takes up digits, and what follows the digits. Once a digit does
not fit, it and all later ones are only counted. -/
def readSignificand (n : Nat) : List Char → (taken dropped : Nat) → Nat × Nat × Nat × List Char
  | [], taken, dropped => (n, taken, dropped, [])
  | c :: rest, taken, dropped =>
    if isDigit c then
      let next := n * 10 + (c.toNat - 48)
      if dropped = 0 ∧ next < Nat.pow 2 64 then readSignificand next rest (taken + 1) 0
      else readSignificand n rest taken (dropped + 1)
    else (n, taken, dropped, c :: rest)

/-- The exponent behind a number, which is zero when none is written, and what follows. -/
def readExponent : List Char → Option (Int × List Char)
  | [] => some (0, [])
  | c :: rest =>
    if c = 'e' ∨ c = 'E' then
      let (negative, rest) :=
        match rest with
        | '-' :: rest => (true, rest)
        | '+' :: rest => (false, rest)
        | rest => (false, rest)
      let digits := rest.takeWhile isDigit
      if digits.isEmpty then none
      else
        let n : Int := digitsValue digits
        some (if negative then -n else n, rest.dropWhile isDigit)
    else some (0, c :: rest)

/-- A significand times a power of ten in floating point, unless it is too large. Powers beyond
`10 ^ 308` are taken in steps; no more than two of them are needed. -/
def scaled? (significand : Nat) (exponent : Int) : Option Float :=
  let x := Float.ofNat significand
  let power (n : Nat) : Float := Float.ofScientific 1 false n
  if significand = 0 then some 0
  else if 0 ≤ exponent then
    if exponent ≤ 308 then
      let y := x * power exponent.toNat
      if y.isInf then none else some y
    else none
  else
    let n := (-exponent).toNat
    if n ≤ 308 then some (x / power n)
    else if n ≤ 616 then some (x / power 308 / power (n - 308))
    else some 0

/-- A number without its sign, and what follows. -/
def readMagnitude (negative : Bool) (cs : List Char) : Option (Json × List Char) := do
  let signed (x : Float) : Json := .real (if negative then -x else x)
  let leadingZero := cs.head? == some '0'
  if !(cs.head?.any isDigit) ∨ leadingZero ∧ (cs.drop 1).head?.any isDigit then none
  let (whole, _, droppedWhole, rest) := readSignificand 0 cs 0 0
  match rest with
  | '.' :: fraction =>
    let (significand, places, droppedPlaces, rest) := readSignificand whole fraction 0 0
    if places + droppedPlaces = 0 then none
    let (exponent, rest) ← readExponent rest
    let x ← scaled? significand (droppedWhole - places + exponent)
    return (signed x, rest)
  | _ =>
    if rest.head? = some 'e' ∨ rest.head? = some 'E' then
      let (exponent, rest) ← readExponent rest
      let x ← scaled? whole (droppedWhole + exponent)
      return (signed x, rest)
    else if droppedWhole > 0 then
      let x ← scaled? whole droppedWhole
      return (signed x, rest)
    else if negative then
      if whole = 0 ∨ Nat.pow 2 63 < whole then return (signed (Float.ofNat whole), rest)
      else return (.integer (-whole), rest)
    else return (.integer whole, rest)

/-! ## Values -/

/-- Items with commas between them, up to a closing character, and what follows. -/
def readItems (item : List Char → Option (α × List Char)) (close : Char) :
    (fuel : Nat) → List Char → Option (List α × List Char)
  | 0, _ => none
  | fuel + 1, cs => do
    let (a, rest) ← item cs
    match rest.dropWhile isSpace with
    | ',' :: rest => do
      let (as, rest) ← readItems item close fuel rest
      return (a :: as, rest)
    | c :: rest => if c = close then some ([a], rest) else none
    | [] => none

/-- Any number of items with commas between them, up to a closing character, and what follows. -/
def readAnyItems (item : List Char → Option (α × List Char)) (close : Char) (cs : List Char) :
    Option (List α × List Char) :=
  match cs.dropWhile isSpace with
  | [] => none
  | c :: rest =>
    if c = close then some ([], rest) else readItems item close (cs.length + 1) (c :: rest)

/-- A field of an object: a name, a colon and a value. -/
def readField (value : List Char → Option (Json × List Char)) (cs : List Char) :
    Option ((String × Json) × List Char) :=
  match cs.dropWhile isSpace with
  | '"' :: rest => do
    let (name, rest) ← readText (rest.length + 1) rest
    match rest.dropWhile isSpace with
    | ':' :: rest => do
      let (v, rest) ← value rest
      return ((String.ofList name, v), rest)
    | _ => none
  | _ => none

/-- A value with blanks before it, and what follows. Lists and objects in it may lie less than
`depth` deep. -/
def readValue : (depth : Nat) → List Char → Option (Json × List Char)
  | 0, _ => none
  | depth + 1, cs =>
    match cs.dropWhile isSpace with
    | 'n' :: 'u' :: 'l' :: 'l' :: rest => some (.null, rest)
    | 't' :: 'r' :: 'u' :: 'e' :: rest => some (.bool true, rest)
    | 'f' :: 'a' :: 'l' :: 's' :: 'e' :: rest => some (.bool false, rest)
    | '"' :: rest => (readText (rest.length + 1) rest).map fun (s, rest) =>
      (.text (String.ofList s), rest)
    | '[' :: rest =>
      if depth = 0 then none
      else (readAnyItems (readValue depth) ']' rest).map fun (items, rest) => (.list items, rest)
    | '{' :: rest =>
      if depth = 0 then none
      else
        (readAnyItems (readField (readValue depth)) '}' rest).map fun (fields, rest) =>
          (.object fields, rest)
    | '-' :: rest => readMagnitude true rest
    | rest => readMagnitude false rest

/-- The value that a whole text writes. -/
def read? (s : String) : Option Json :=
  match readValue 128 s.toList with
  | some (value, rest) => if rest.all isSpace then some value else none
  | none => none

end Playback.Json
