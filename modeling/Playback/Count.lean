import Playback.Fault
import Playback.Text.Cut

/-!
# Conditions on counts

A condition such as `3`, `>=2` or `3,5..6` on a use count: one or more terms, of which one has to
hold.
-/

namespace Playback

open Text

/-- A condition on a count that is written without a comma. -/
inductive CountTerm where
  /-- The count is `n`. -/
  | exactly (n : Nat)
  /-- The count is greater than `n`. -/
  | above (n : Nat)
  /-- The count is at least `n`. -/
  | atLeast (n : Nat)
  /-- The count is less than `n`. -/
  | below (n : Nat)
  /-- The count is at most `n`. -/
  | atMost (n : Nat)
  /-- The count is from `low` to `high`, both included. -/
  | within (low high : Nat)
  deriving DecidableEq, Repr

/-- A condition on a count: at least one term. -/
structure CountExpr where
  /-- The first term. -/
  first : CountTerm
  /-- The other terms. -/
  others : List CountTerm
  deriving DecidableEq, Repr

/-- Whether a term holds of a count. -/
def CountTerm.holds (term : CountTerm) (count : Int) : Bool :=
  match term with
  | .exactly n => count == n
  | .above n => decide ((n : Int) < count)
  | .atLeast n => decide ((n : Int) ≤ count)
  | .below n => decide (count < n)
  | .atMost n => decide (count ≤ n)
  | .within low high => decide ((low : Int) ≤ count) && decide (count ≤ high)

/-- All terms of a condition. -/
def CountExpr.terms (e : CountExpr) : List CountTerm :=
  e.first :: e.others

/-- Whether a condition holds of a count. -/
def CountExpr.holds (e : CountExpr) (count : Int) : Bool :=
  e.terms.any (·.holds count)

/-- The text of a term. -/
def CountTerm.chars : CountTerm → List Char
  | .exactly n => natDigits n
  | .above n => '>' :: natDigits n
  | .atLeast n => '>' :: '=' :: natDigits n
  | .below n => '<' :: natDigits n
  | .atMost n => '<' :: '=' :: natDigits n
  | .within low high => natDigits low ++ '.' :: '.' :: natDigits high

/-- The text of a condition: its terms with commas between them. -/
def CountExpr.chars (e : CountExpr) : List Char :=
  e.first.chars ++ e.others.flatMap fun term => ',' :: term.chars

/-- The text of a condition. -/
def CountExpr.text (e : CountExpr) : String :=
  String.ofList e.chars

/-- The number that a text of digits writes, which counts can reach. -/
def readLimit (cs : List Char) : Except SyntaxFault Nat :=
  match (natOfDigits? cs).filter (· ≤ maxCount) with
  | some n => .ok n
  | none => .error (.invalidNumber (String.ofList cs))

/-- The term that a text writes. Two dots are looked for before the comparison signs. -/
def CountTerm.read (cs : List Char) : Except SyntaxFault CountTerm :=
  match cutAt? ['.', '.'] cs with
  | some (low, high) => do
    let low ← readLimit low
    let high ← readLimit high
    return .within low high
  | none =>
    match cs with
    | '>' :: '=' :: digits => .atLeast <$> readLimit digits
    | '<' :: '=' :: digits => .atMost <$> readLimit digits
    | '>' :: digits => .above <$> readLimit digits
    | '<' :: digits => .below <$> readLimit digits
    | digits => .exactly <$> readLimit digits

/-- The terms that texts write, or the fault of the first that is no term. -/
def CountTerm.readAll : List (List Char) → Except SyntaxFault (List CountTerm)
  | [] => .ok []
  | cs :: rest => do
    let term ← CountTerm.read cs
    let terms ← CountTerm.readAll rest
    return term :: terms

/-- The condition that a text writes. -/
def CountExpr.read (text : String) : Except SyntaxFault CountExpr := do
  match ← CountTerm.readAll (splitChar ',' text.toList) with
  | first :: others => return ⟨first, others⟩
  | [] => throw (.invalidNumber "")

end Playback
