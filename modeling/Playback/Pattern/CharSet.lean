import Playback.Text.Blank
import Playback.Unicode.BinaryProperty
import Playback.Unicode.Folding
import Playback.Unicode.ValuedProperty

/-!
# Character sets

What one element of a pattern accepts: ranges, character properties, and the sets that class
operations build from them. A set is a description; `contains` decides membership.
-/

namespace Playback.Pattern

open Playback.Text Playback.Unicode

/-- A set of characters, as a pattern describes it. -/
inductive CharSet where
  /-- No character. -/
  | empty
  /-- The characters from `low` to `high`, both included. -/
  | span (low high : Char)
  /-- Decimal digits. -/
  | digit
  /-- Blanks. -/
  | blank
  /-- Characters that make up words. -/
  | word
  /-- Characters with a property. -/
  | binary (property : BinaryProperty)
  /-- Characters for which a property has a value with one of the given labels. -/
  | valued (property : ValuedProperty) (labels : List String)
  /-- Characters of either set. -/
  | union (a b : CharSet)
  /-- Characters of both sets. -/
  | meet (a b : CharSet)
  /-- Characters of the first set outside the second. -/
  | minus (a b : CharSet)
  /-- Characters of exactly one of the sets. -/
  | differ (a b : CharSet)
  /-- Characters outside a set. -/
  | complement (a : CharSet)
  /-- Characters that differ by case at most from one of a set. -/
  | folded (a : CharSet)
  /-- Characters that differ by the case of an ASCII letter at most from one of a set. -/
  | foldedAscii (a : CharSet)
  deriving DecidableEq, Repr

/-- Whether a character belongs to a set. -/
def CharSet.contains : CharSet → Char → Bool
  | .empty, _ => false
  | .span low high, c => low ≤ c && c ≤ high
  | .digit, c => isDecimal c
  | .blank, c => isBlank c
  | .word, c => isWordChar c
  | .binary property, c => property.holds c
  | .valued property labels, c => property.holds labels c
  | .union a b, c => a.contains c || b.contains c
  | .meet a b, c => a.contains c && b.contains c
  | .minus a b, c => a.contains c && !b.contains c
  | .differ a b, c => a.contains c != b.contains c
  | .complement a, c => !a.contains c
  | .folded a, c => (caseVariants c).any a.contains
  | .foldedAscii a, c => a.contains c || a.contains c.toLower || a.contains c.toUpper

namespace CharSet

/-- How much a set adds to the size of a pattern, about: a character counts its bytes, a range the
bytes of each length that its characters have, and a property its ranges. -/
def weight : CharSet → Nat
  | .empty => 1
  | .span low high =>
    ([1, 2, 3, 4].filter fun n => low.utf8Size ≤ n ∧ n ≤ high.utf8Size).foldl (· + ·) 0
  | .digit => categoryTable.countOf ["Nd"]
  | .blank => categoryTable.countOf ["Zl", "Zp", "Zs"]
  | .word => alphabeticTable.countOf ["+"]
  | .binary property => property.table.countOf ["+"]
  | .valued property labels => property.table.countOf labels
  | .union a b | .meet a b | .minus a b | .differ a b => a.weight + b.weight
  | .complement a => a.weight + 10
  | .folded a | .foldedAscii a => 2 * a.weight

/-- The set of one character. -/
def single (c : Char) : CharSet :=
  .span c c

/-- Every character. -/
def any : CharSet :=
  .span (Char.ofNat 0) (Char.ofNat 0x10FFFF)

/-- The characters of a list of ranges. -/
def spans (ranges : List (Char × Char)) : CharSet :=
  ranges.foldl (fun set (low, high) => set.union (.span low high)) .empty

/-- The set, or its complement when `negated`. -/
def negatedIf (negated : Bool) (a : CharSet) : CharSet :=
  if negated then a.complement else a

/-- The characters of ASCII. -/
def ascii : CharSet :=
  .span (Char.ofNat 0) (Char.ofNat 0x7F)

/-- The decimal digits of ASCII. -/
def asciiDigit : CharSet :=
  .span '0' '9'

/-- The blanks of ASCII. -/
def asciiBlank : CharSet :=
  spans [('\t', '\r'), (' ', ' ')]

/-- The characters of ASCII that make up words. -/
def asciiWord : CharSet :=
  spans [('0', '9'), ('A', 'Z'), ('_', '_'), ('a', 'z')]

/-- The named classes of ASCII characters. -/
def asciiClass? (name : String) : Option CharSet :=
  match name with
  | "alnum" => some (spans [('0', '9'), ('A', 'Z'), ('a', 'z')])
  | "alpha" => some (spans [('A', 'Z'), ('a', 'z')])
  | "ascii" => some ascii
  | "blank" => some (spans [('\t', '\t'), (' ', ' ')])
  | "cntrl" =>
    some (spans [(Char.ofNat 0, Char.ofNat 0x1F), (Char.ofNat 0x7F, Char.ofNat 0x7F)])
  | "digit" => some asciiDigit
  | "graph" => some (.span '!' '~')
  | "lower" => some (.span 'a' 'z')
  | "print" => some (.span ' ' '~')
  | "punct" => some (spans [('!', '/'), (':', '@'), ('[', '\x60'), ('\x7b', '~')])
  | "space" => some asciiBlank
  | "upper" => some (.span 'A' 'Z')
  | "word" => some asciiWord
  | "xdigit" => some (spans [('0', '9'), ('A', 'F'), ('a', 'f')])
  | _ => none

/-- A property name in normal form: without a leading `is`, lower case, and without blanks,
hyphens, underscores and other alphabets. Only `isc` keeps its beginning. -/
def propertyForm (name : List Char) : String :=
  let (stripped, rest) :=
    match name with
    | 'i' :: 's' :: cs | 'i' :: 'S' :: cs | 'I' :: 's' :: cs | 'I' :: 'S' :: cs => (true, cs)
    | cs => (false, cs)
  let kept := rest.filter fun c => c.toNat < 128 && c != ' ' && c != '_' && c != '-'
  match stripped, kept.map Char.toLower with
  | true, ['c'] => "isc"
  | _, cs => String.ofList cs

/-- The characters of the general category with a name in normal form. -/
def ofCategory? (form : String) : Option CharSet :=
  match form with
  | "any" => some any
  | "assigned" => some (.complement (.valued .category ["Cn"]))
  | "ascii" => some ascii
  | _ => (ValuedProperty.category.labels? form).map (.valued .category)

/-- The characters for which a property has the value with a name in normal form. -/
def ofValue? (property : ValuedProperty) (form : String) : Option CharSet :=
  match property with
  | .category => ofCategory? form
  | property => (property.labels? form).map (.valued property)

/-- The characters of the property with a name in normal form: one that characters have or lack, a
general category or a script. -/
def ofProperty? (form : String) : Option CharSet :=
  (BinaryProperty.named? form).map .binary <|> ofCategory? form <|> ofValue? .script form

/-- The characters for which the named property has the given value. -/
def ofPropertyValue? (property value : String) : Option CharSet :=
  (ValuedProperty.named? property).bind (ofValue? · value)

end CharSet

end Playback.Pattern
