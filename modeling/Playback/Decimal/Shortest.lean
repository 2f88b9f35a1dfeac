import Playback.Text.Digits

/-!
# Shortest decimals

The decimal with the fewest digits that reads back as a given binary floating-point number, and its
text. A number is given as `m * 2 ^ q`; all arithmetic is on natural numbers.
-/

namespace Playback

open Text

/-- A decimal `digits * 10 ^ scale`. -/
structure Decimal where
  /-- The digits as one number. -/
  digits : Nat
  /-- The exponent of ten. -/
  scale : Int
  deriving DecidableEq, Repr

namespace Decimal

/-- Whether `a * 10 ^ s ≤ num / den`. -/
def decimalLe (a : Nat) (s : Int) (num den : Nat) : Bool :=
  a * Nat.pow 10 s.toNat * den ≤ num * Nat.pow 10 (-s).toNat

/-- Whether `num / den ≤ a * 10 ^ s`. -/
def leDecimal (num den : Nat) (a : Nat) (s : Int) : Bool :=
  num * Nat.pow 10 (-s).toNat ≤ a * Nat.pow 10 s.toNat * den

/-- The numbers that round to one binary number: from `low / den` to `high / den`, around
`mid / den`. -/
structure Rounding where
  /-- The lower end. -/
  low : Nat
  /-- The binary number. -/
  mid : Nat
  /-- The upper end. -/
  high : Nat
  /-- The common denominator. -/
  den : Nat
  /-- Whether the ends belong to the interval. -/
  closed : Bool

/-- The numbers that round to `m * 2 ^ q` with 53 bits: half the distance to either neighbour. Below
a power of two the neighbour is nearer. Ends go to an even `m`. -/
def Rounding.of (m : Nat) (q : Int) : Rounding :=
  let unit := Nat.pow 2 (q - 2).toNat
  let below := if m = Nat.pow 2 52 ∧ -1074 < q then 1 else 2
  ⟨(4 * m - below) * unit, 4 * m * unit, (4 * m + 2) * unit, Nat.pow 2 (2 - q).toNat, m % 2 == 0⟩

/-- Whether a decimal rounds to the binary number. -/
def Rounding.holds (r : Rounding) (d : Decimal) : Bool :=
  if r.closed then leDecimal r.low r.den d.digits d.scale && decimalLe d.digits d.scale r.high r.den
  else !decimalLe d.digits d.scale r.low r.den && !leDecimal r.high r.den d.digits d.scale

/-- The exponent of the first decimal digit of the binary number, which is not zero. -/
def Rounding.magnitude (r : Rounding) : Int :=
  if r.den ≤ r.mid then (natDigits (r.mid / r.den)).length - 1
  else -(natDigits ((r.den + r.mid - 1) / r.mid - 1)).length

/-- The two decimals next to the binary number with digits down to a scale, the nearer one first. Of
two that are equally near the greater comes first. -/
def Rounding.neighbours (r : Rounding) (scale : Int) : List Decimal :=
  let floor := r.mid * Nat.pow 10 (-scale).toNat / (r.den * Nat.pow 10 scale.toNat)
  if decimalLe (2 * floor + 1) scale (2 * r.mid) r.den then [⟨floor + 1, scale⟩, ⟨floor, scale⟩]
  else [⟨floor, scale⟩, ⟨floor + 1, scale⟩]

/-- The first decimal that rounds to the binary number, trying ever finer scales. -/
def Rounding.search (r : Rounding) (scale : Int) : (steps : Nat) → Decimal
  | 0 => ⟨r.mid * Nat.pow 10 (-scale).toNat / (r.den * Nat.pow 10 scale.toNat), scale⟩
  | steps + 1 =>
    match (r.neighbours scale).find? r.holds with
    | some d => d
    | none => r.search (scale - 1) steps

/-- The shortest decimal that reads back as `m * 2 ^ q`. Seventeen digits always suffice. The search
starts one place before the first digit, for numbers that are rounded up to a power of ten. -/
def shortest (m : Nat) (q : Int) : Decimal :=
  if m = 0 then ⟨0, 0⟩
  else
    let r := Rounding.of m q
    r.search (r.magnitude + 1) 18

/-- The text of a decimal without an exponent, with a point and at least one digit behind it. -/
def positional (d : Decimal) : List Char :=
  let digits := natDigits d.digits
  if 0 ≤ d.scale then digits ++ List.replicate d.scale.toNat '0' ++ ['.', '0']
  else
    let places := (-d.scale).toNat
    let padded := List.replicate (places + 1 - digits.length) '0' ++ digits
    padded.take (padded.length - places) ++ '.' :: padded.drop (padded.length - places)

/-- The exponent of ten of the first digit. -/
def exponent (d : Decimal) : Int :=
  d.scale + (natDigits d.digits).length - 1

/-- The text of a decimal with an exponent: one digit, the others behind a point if there are any,
and the exponent with its sign. -/
def scientific (d : Decimal) : List Char :=
  let sign := if d.exponent < 0 then [] else ['+']
  let mantissa :=
    match natDigits d.digits with
    | first :: second :: rest => first :: '.' :: second :: rest
    | digits => digits
  mantissa ++ 'e' :: sign ++ intDigits d.exponent

/-- The text of a decimal: with an exponent where the first digit stands more than fifteen places
before the last digit of the whole part, or more than five places behind the point. -/
def chars (d : Decimal) : List Char :=
  if -5 ≤ d.exponent ∧ d.exponent ≤ 15 then d.positional else d.scientific

/-- The text of a finite floating-point number: the shortest decimal that reads back. -/
def realChars (x : Float) : List Char :=
  let bits := x.toBits.toNat
  let exponent : Nat := bits / Nat.pow 2 52 % Nat.pow 2 11
  let fraction := bits % Nat.pow 2 52
  let d :=
    if exponent = 0 then shortest fraction (-1074)
    else shortest (Nat.pow 2 52 + fraction) ((exponent : Int) - 1075)
  (if bits / Nat.pow 2 63 = 1 then ['-'] else []) ++ d.chars

end Decimal

end Playback
