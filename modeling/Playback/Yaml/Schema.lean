import Playback.Text.Blank
import Playback.Text.Digits
import Playback.Yaml.Node

/-!
# What plain scalars mean

Which texts stand for nothing, truth values and numbers when they are not in quotes.
-/

namespace Playback.Yaml

open Text

/-- The characters of a text with small ASCII letters. -/
def lowered (cs : List Char) : List Char :=
  cs.map Char.toLower

/-- Whether a text stands for nothing. -/
def isNullText (s : String) : Bool :=
  s == "" || s == "~" || lowered s.toList == "null".toList

/-- Whether a node stands for nothing. -/
def Node.isNull : Node → Bool
  | .scalar style _ text => style == .plain && isNullText text
  | .list _ | .map _ => false

/-- Whether a text stands for a truth value. -/
def isBoolText (s : String) : Bool :=
  let word := lowered (trimChars s.toList)
  ["y", "yes", "true", "on", "n", "no", "false", "off"].any fun known => word == known.toList

/-! ## Whole numbers -/

/-- The number that digits of a radix write, with underscores between them. -/
def radixValue? (radix : Nat) (cs : List Char) : Option Nat := do
  let digits := cs.filter (· != '_')
  if digits.isEmpty then none
  let values ← digits.mapM hexDigit?
  if values.all (· < radix) then some (radixValue radix values) else none

/-- The number that a text without a sign writes, in decimal or with a sign for its radix. -/
def naturalOf? : List Char → Option Nat
  | '0' :: 'x' :: digits | '0' :: 'X' :: digits => radixValue? 16 digits
  | '0' :: 'o' :: digits | '0' :: 'O' :: digits => radixValue? 8 digits
  | '0' :: 'b' :: digits | '0' :: 'B' :: digits => radixValue? 2 digits
  | digits => radixValue? 10 digits

/-- The integer that a text writes. -/
def integerOf? (s : String) : Option Int :=
  match trimChars s.toList with
  | '-' :: rest => (naturalOf? rest).map fun n => -(n : Int)
  | '+' :: rest => (naturalOf? rest).map fun n => (n : Int)
  | rest => (naturalOf? rest).map fun n => (n : Int)

/-- Whether a text stands for a whole number: one of 64 bits, with or without a sign bit. -/
def isIntegerText (s : String) : Bool :=
  (integerOf? s).any fun n => -(Nat.pow 2 63 : Int) ≤ n && n < (Nat.pow 2 64 : Int)

/-! ## Numbers with a fraction or an exponent -/

/-- A number of 64 bits with a floating point, as far as it can be told from a text. -/
inductive Real where
  /-- A finite number. -/
  | finite
  /-- An infinite number. -/
  | infinite (negative : Bool)
  /-- No number. -/
  | nan
  deriving DecidableEq, Repr

/-- The parts of a decimal: the digits of the whole part and of the fraction, and the exponent. -/
structure DecimalText where
  /-- The digits of the whole part. -/
  whole : List Char
  /-- The digits of the fraction. -/
  fraction : List Char
  /-- The exponent of ten. -/
  exponent : Int

/-- The exponent that a text writes, zero if there is none. -/
def exponentOf? : List Char → Option Int
  | [] => some 0
  | c :: rest =>
    if c == 'e' || c == 'E' then
      match rest with
      | '-' :: digits => (natOfDigits? digits).map fun n => -(n : Int)
      | '+' :: digits | digits => (natOfDigits? digits).map fun n => (n : Int)
    else none

/-- The decimal that a text without a sign writes. -/
def decimalOf? (cs : List Char) : Option DecimalText := do
  let whole := cs.takeWhile isDigit
  let rest := cs.dropWhile isDigit
  let behind := if rest.head? = some '.' then rest.tail else rest
  let fraction := if rest.head? = some '.' then behind.takeWhile isDigit else []
  let exponent ← exponentOf? (behind.drop fraction.length)
  if whole.isEmpty && fraction.isEmpty then none else some ⟨whole, fraction, exponent⟩

/-- Whether a decimal is too large for 64 bits: it lies at least half a step beyond the greatest
number that they hold. -/
def DecimalText.overflows (d : DecimalText) : Bool :=
  let digits := (d.whole ++ d.fraction).dropWhile (· == '0')
  let scale := d.exponent - d.fraction.length
  let places := digits.length + scale
  let bound := Nat.pow 2 1024 - Nat.pow 2 970
  if digits.isEmpty || places < 300 then false
  else if 320 < places then true
  else bound * Nat.pow 10 (-scale).toNat ≤ digitsValue digits * Nat.pow 10 scale.toNat

/-- The number that a text stands for. -/
def realOf? (s : String) : Option Real :=
  let cs := lowered (trimChars s.toList)
  let negative := cs.head? = some '-'
  let unsigned := if negative || cs.head? = some '+' then cs.tail else cs
  let isOne (words : List String) := words.any fun word => unsigned == word.toList
  if isOne [".nan", "nan"] then some .nan
  else if isOne [".inf", "inf", "infinity"] then some (.infinite negative)
  else (decimalOf? unsigned).map fun d => if d.overflows then .infinite negative else .finite

/-! ## Texts -/

/-- The text that a plain scalar stands for if it does not stand for nothing, a truth value or a
finite number. Infinite numbers and those that are none have one spelling. -/
def plainText? (s : String) : Option String :=
  if isNullText s || isBoolText s || isIntegerText s then none
  else
    match realOf? s with
    | some .finite => none
    | some (.infinite false) => some ".inf"
    | some (.infinite true) => some "-.inf"
    | some .nan => some ".nan"
    | none => some s

end Playback.Yaml
