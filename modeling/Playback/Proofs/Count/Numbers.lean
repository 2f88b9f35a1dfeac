import Playback.Proofs.Count.Reading

/-!
# The numbers in a condition

The numbers of a text are those of its longest runs of digits. In the text of a condition they are
the numbers of its terms.
-/

namespace Playback

open Text

/-- The numbers that stand in a text, in order: those of its longest runs of digits. -/
def numbersIn (cs : List Char) : List Nat :=
  ((cs.splitOnP fun c => !isDigit c).filter (!·.isEmpty)).map digitsValue

theorem numbersIn_sign {c : Char} (hc : isDigit c = false) (cs : List Char) :
    numbersIn (c :: cs) = numbersIn cs := by
  have hsplit : (c :: cs).splitOnP (fun c => !isDigit c) =
      [] :: cs.splitOnP fun c => !isDigit c := by
    rw [List.splitOnP_cons_eq_if_modifyHead, hc]
    rfl
  rw [numbersIn, hsplit]
  rfl

/-- The digits of a number, and a text that does not start with a digit behind them. -/
theorem numbersIn_append {rest : List Char} (hrest : StartsNoNumber rest) (n : Nat) :
    numbersIn (natDigits n ++ rest) = n :: numbersIn rest := by
  have hdigits : ∀ c ∈ natDigits n, (!isDigit c) = false := by
    intro c hc
    rw [isDigit_of_mem_natDigits hc]
    rfl
  have hne : (natDigits n).isEmpty = false := List.isEmpty_eq_false_iff.2 (natDigits_ne_nil n)
  cases rest with
  | nil =>
    rw [List.append_nil, numbersIn, List.splitOnP_eq_singleton hdigits]
    simp [hne, numbersIn]
  | cons c rest =>
    have hc : isDigit c = false := hrest c rfl
    have hsign : (!isDigit c) = true := by rw [hc]; rfl
    rw [numbersIn_sign hc, numbersIn, List.splitOnP_append_cons_of_forall_mem hdigits c hsign]
    simp [hne, numbersIn]

theorem numbersIn_natDigits (n : Nat) : numbersIn (natDigits n) = [n] := by
  have hnil : StartsNoNumber [] := fun c hc => nomatch hc
  have hrest := numbersIn_append hnil n
  rw [List.append_nil] at hrest
  exact hrest

/-- The numbers of a term are found in its text, whatever stands behind it that starts no number. -/
theorem CountTerm.numbersIn_append {rest : List Char} (hrest : StartsNoNumber rest)
    (t : CountTerm) : numbersIn (t.chars ++ rest) = t.numbers ++ numbersIn rest := by
  cases t with
  | exactly n => exact Playback.numbersIn_append hrest n
  | above n | below n =>
    rw [CountTerm.chars, List.cons_append, numbersIn_sign (by decide),
      Playback.numbersIn_append hrest]
    rfl
  | atLeast n | atMost n =>
    rw [CountTerm.chars, List.cons_append, List.cons_append, numbersIn_sign (by decide),
      numbersIn_sign (by decide), Playback.numbersIn_append hrest]
    rfl
  | within low high =>
    have hdots : StartsNoNumber ('.' :: '.' :: (natDigits high ++ rest)) := by
      rintro c ⟨⟩
      decide
    rw [CountTerm.chars, List.append_assoc, List.cons_append, List.cons_append,
      Playback.numbersIn_append hdots, numbersIn_sign (by decide), numbersIn_sign (by decide),
      Playback.numbersIn_append hrest]
    rfl

/-- The numbers of a condition are those of its terms. -/
theorem CountExpr.numbersIn_chars (e : CountExpr) :
    numbersIn e.chars = e.terms.flatMap CountTerm.numbers := by
  obtain ⟨first, others⟩ := e
  have hothers (ts : List CountTerm) : StartsNoNumber (ts.flatMap fun t => ',' :: t.chars) ∧
      numbersIn (ts.flatMap fun t => ',' :: t.chars) = ts.flatMap CountTerm.numbers := by
    induction ts with
    | nil =>
      refine ⟨fun c hc => ?_, rfl⟩
      cases hc
    | cons t ts ih =>
      refine ⟨?_, ?_⟩
      · rintro c ⟨⟩
        decide
      · rw [List.flatMap_cons, List.cons_append, numbersIn_sign (by decide),
          t.numbersIn_append ih.1, ih.2, List.flatMap_cons]
  rw [CountExpr.chars, CountTerm.numbersIn_append (hothers others).1, (hothers others).2]
  rfl

end Playback
