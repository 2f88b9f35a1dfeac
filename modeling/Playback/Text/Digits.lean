/-!
# Digits

Reading and writing integers in decimal, with the value ranges that the numbers of the domain have,
and reading digits of other radices.
-/

namespace Playback.Text

/-- The characters `0` to `9`. -/
def isDigit (c : Char) : Bool :=
  '0' ≤ c && c ≤ '9'

/-- The number that a list of decimal digits writes. -/
def digitsValue (cs : List Char) : Nat :=
  cs.foldl (fun n c => n * 10 + (c.toNat - 48)) 0

/-- The number that a text writes if it is a non-empty list of decimal digits. -/
def natOfDigits? (cs : List Char) : Option Nat :=
  if !cs.isEmpty && cs.all isDigit then some (digitsValue cs) else none

/-- The decimal digits of a number, without leading zeros. -/
def natDigits (n : Nat) : List Char :=
  Nat.toDigits 10 n

/-- The decimal text of an integer, with a minus sign before a negative one. -/
def intDigits : Int → List Char
  | .ofNat n => natDigits n
  | .negSucc n => '-' :: natDigits (n + 1)

/-- The decimal text of a natural number. -/
def natText (n : Nat) : String :=
  String.ofList (natDigits n)

/-- The decimal text of an integer. -/
def intText (n : Int) : String :=
  String.ofList (intDigits n)

/-- The value of a hexadecimal digit. -/
def hexDigit? (c : Char) : Option Nat :=
  if isDigit c then some (c.toNat - 48)
  else if 'a' ≤ c ∧ c ≤ 'f' then some (c.toNat - 87)
  else if 'A' ≤ c ∧ c ≤ 'F' then some (c.toNat - 55)
  else none

/-- The number that the values of digits write in a radix. -/
def radixValue (radix : Nat) (values : List Nat) : Nat :=
  values.foldl (fun n d => n * radix + d) 0

/-- The character with a number, if there is one. -/
def charOf? (n : Nat) : Option Char :=
  if n.isValidChar then some (Char.ofNat n) else none

/-- The largest count: `2 ^ 63 - 1`. -/
def maxCount : Nat := 9223372036854775807

/-- Counts are the integers of 64 bits with a sign. -/
def isCount (n : Int) : Bool :=
  -9223372036854775808 ≤ n && n ≤ 9223372036854775807

/-- The count behind a count. Behind the largest one comes the smallest, as where overflow goes
unchecked; where it is checked, there is no count behind the largest one. -/
def nextCount (n : Int) : Int :=
  if n = maxCount then -9223372036854775808 else n + 1

/-- Below the largest count, the next one is one more. -/
theorem nextCount_of_lt {n : Int} (h : n < maxCount) : nextCount n = n + 1 :=
  if_neg (Int.ne_of_lt h)

/-- The count behind a count is a count. -/
theorem isCount_nextCount {n : Int} (h : isCount n = true) : isCount (nextCount n) = true := by
  simp only [isCount, Bool.and_eq_true, decide_eq_true_eq] at h ⊢
  have hmax : (maxCount : Int) = 9223372036854775807 := rfl
  rw [nextCount]
  split <;> omega

/-- The count that a text writes: an optional sign and decimal digits, within range. -/
def countOf? (cs : List Char) : Option Int :=
  let value? : Option Int :=
    match cs with
    | '-' :: digits => (natOfDigits? digits).map fun n => -(n : Int)
    | '+' :: digits => (natOfDigits? digits).map fun n => (n : Int)
    | digits => (natOfDigits? digits).map fun n => (n : Int)
  value?.filter isCount

/-- A number below `bound` that a text writes: an optional plus sign and decimal digits. -/
def natBelow? (bound : Nat) (cs : List Char) : Option Nat :=
  let value? :=
    match cs with
    | '+' :: digits => natOfDigits? digits
    | digits => natOfDigits? digits
  value?.filter (· < bound)

end Playback.Text
