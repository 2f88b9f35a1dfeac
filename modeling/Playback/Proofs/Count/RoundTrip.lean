import Playback.Proofs.Fallible
import Playback.Proofs.Text.Cut
import Playback.Proofs.Text.Digits

/-!
# Reading back conditions on counts

The texts that have the form of a condition are the texts of conditions, and reading one gives back
the condition whose text it is, provided that counts can reach its numbers.
-/

namespace Playback

open Text

/-- Counts can reach the numbers of a term. -/
def CountTerm.InRange : CountTerm → Prop
  | .exactly n | .above n | .atLeast n | .below n | .atMost n => n ≤ maxCount
  | .within low high => low ≤ maxCount ∧ high ≤ maxCount

/-- Counts can reach the numbers of a condition. -/
def CountExpr.InRange (e : CountExpr) : Prop :=
  ∀ term ∈ e.terms, term.InRange

/-! ## Numbers out of range -/

/-- What is read where only the size of a number can be wrong: the value, unless a number is refused
for its size. -/
def refuseNumber (refused : Option Nat) (value : α) : Except SyntaxFault α :=
  match refused with
  | none => .ok value
  | some n => .error (.invalidNumber (natText n))

section Refusing

variable {α β : Type} {value : α} {refused : Option Nat}

theorem map_refuseNumber (f : α → β) :
    f <$> refuseNumber refused value = refuseNumber refused (f value) := by
  cases refused <;> rfl

theorem refuseNumber_eq_ok_iff {a : α} :
    refuseNumber refused value = .ok a ↔ refused = none ∧ value = a := by
  cases refused <;> simp [refuseNumber]

theorem refuseNumber_eq_error_iff {fault : SyntaxFault} :
    refuseNumber refused value = .error fault ↔
      ∃ n, refused = some n ∧ fault = .invalidNumber (natText n) := by
  cases refused <;> simp [refuseNumber, eq_comm]

end Refusing

/-- A limit is refused when counts cannot reach it. -/
theorem readLimit_natDigits (n : Nat) :
    readLimit (natDigits n) = refuseNumber ([n].find? (maxCount < ·)) n := by
  rw [readLimit, natOfDigits?_natDigits, Option.filter_some]
  by_cases h : n ≤ maxCount
  · have hn : ¬ maxCount < n := Nat.not_lt.2 h
    simp [h, hn, refuseNumber]
  · have hn : maxCount < n := Nat.not_le.1 h
    simp [h, hn, refuseNumber, natText]

/-! ## Terms -/

/-- The text of a number does not start with a comparison sign. -/
theorem natDigits_ne_sign {n : Nat} {c : Char} (hc : c ∈ ['>', '<', '=']) (cs : List Char) :
    natDigits n ≠ c :: cs := by
  intro h
  have hd : isDigit c = true := isDigit_of_mem_natDigits (h ▸ List.mem_cons_self)
  have hs : isDigit c = false := by
    simp only [List.mem_cons, List.not_mem_nil, or_false] at hc
    rcases hc with rfl | rfl | rfl <;> rfl
  exact Bool.false_ne_true (hs.symm.trans hd)

@[simp] theorem cutAt?_dots_natDigits (n : Nat) : cutAt? ['.', '.'] (natDigits n) = none := by
  rw [cutAt?_eq_none_iff]
  intro hin
  have hm : '.' ∈ natDigits n := hin.subset List.mem_cons_self
  exact not_mem_natDigits (by decide) hm

@[simp] theorem cutAt?_dots_append (low high : Nat) :
    cutAt? ['.', '.'] (natDigits low ++ '.' :: '.' :: natDigits high) =
      some (natDigits low, natDigits high) :=
  cutAt?_append (not_mem_natDigits (by decide)) (natDigits high)

/-- The text of a term has the form of a term. -/
theorem isTermText_chars (t : CountTerm) : isTermText t.chars = true := by
  unfold isTermText
  cases t <;> simp [CountTerm.chars, cutAt?, afterPrefix?, natDigits_ne_sign]

/-- The numbers of a term, in order. -/
def CountTerm.numbers : CountTerm → List Nat
  | .exactly n | .above n | .atLeast n | .below n | .atMost n => [n]
  | .within low high => [low, high]

/-- Counts can reach the numbers of a term when none of them is out of range. -/
theorem CountTerm.inRange_iff {t : CountTerm} :
    t.InRange ↔ t.numbers.find? (maxCount < ·) = none := by
  cases t <;> simp [CountTerm.InRange, CountTerm.numbers]

/-- The text of a term is refused for its first number that counts cannot reach. -/
theorem CountTerm.read_chars (t : CountTerm) :
    CountTerm.read t.chars = refuseNumber (t.numbers.find? (maxCount < ·)) t := by
  unfold CountTerm.read
  cases t with
  | within low high =>
    have hnumbers : [low, high].find? (maxCount < ·) =
        ([low].find? (maxCount < ·)).or ([high].find? (maxCount < ·)) := by
      rw [← List.find?_append, List.singleton_append]
    rw [CountTerm.chars, cutAt?_dots_append]
    dsimp only [CountTerm.numbers]
    rw [readLimit_natDigits, readLimit_natDigits, hnumbers]
    cases [low].find? (maxCount < ·) <;> cases [high].find? (maxCount < ·) <;> rfl
  | exactly | above | below | atLeast | atMost =>
    simp [CountTerm.chars, CountTerm.numbers, cutAt?, afterPrefix?, natDigits_ne_sign,
      readLimit_natDigits, map_refuseNumber]

/-- What has the form of a term is the text of a term. -/
theorem exists_chars_of_isTermText {cs : List Char} (h : isTermText cs = true) :
    ∃ t : CountTerm, cs = t.chars := by
  unfold isTermText at h
  split at h
  · rename_i low high hcut
    rw [Bool.and_eq_true, isPlainNumber_iff, isPlainNumber_iff] at h
    obtain ⟨⟨m, rfl⟩, n, rfl⟩ := h
    exact ⟨.within m n, by simpa [CountTerm.chars] using eq_of_cutAt? hcut⟩
  · split at h <;> obtain ⟨n, hn⟩ := isPlainNumber_iff.1 h
    · exact ⟨.atLeast n, by rw [hn, CountTerm.chars]⟩
    · exact ⟨.atMost n, by rw [hn, CountTerm.chars]⟩
    · exact ⟨.above n, by rw [hn, CountTerm.chars]⟩
    · exact ⟨.below n, by rw [hn, CountTerm.chars]⟩
    · exact ⟨.exactly n, by rw [hn, CountTerm.chars]⟩

/-- A character other than digits, signs and dots does not stand in the text of a term. -/
theorem CountTerm.not_mem_chars {c : Char} (hd : isDigit c = false) (hs : c ∉ ['>', '<', '=', '.'])
    (t : CountTerm) : c ∉ t.chars := by
  simp only [List.mem_cons, List.not_mem_nil, or_false, not_or] at hs
  obtain ⟨hgt, hlt, heq, hdot⟩ := hs
  cases t <;> simp [CountTerm.chars, not_mem_natDigits hd, hgt, hlt, heq, hdot]

/-! ## Conditions -/

/-- The texts of terms are refused for the first number that counts cannot reach. -/
theorem CountTerm.readAll_chars (ts : List CountTerm) :
    CountTerm.readAll (ts.map CountTerm.chars) =
      refuseNumber ((ts.flatMap CountTerm.numbers).find? (maxCount < ·)) ts := by
  induction ts with
  | nil => rfl
  | cons t ts ih =>
    rw [List.map_cons, CountTerm.readAll, CountTerm.read_chars, ih, List.flatMap_cons,
      List.find?_append]
    cases t.numbers.find? (maxCount < ·) <;>
      cases (ts.flatMap CountTerm.numbers).find? (maxCount < ·) <;> rfl

/-- The text of a condition is its terms joined by commas. -/
theorem CountExpr.chars_eq_join (e : CountExpr) :
    e.chars = e.first.chars ++ (e.others.map CountTerm.chars).flatMap (',' :: ·) := by
  rw [CountExpr.chars, List.flatMap_map]

/-- The text of a condition is split into the texts of its terms. -/
theorem splitChar_chars (e : CountExpr) :
    splitChar ',' e.chars = e.terms.map CountTerm.chars := by
  rw [CountExpr.chars_eq_join, splitChar_join, CountExpr.terms, List.map_cons]
  rw [← List.map_cons]
  intro part hp
  obtain ⟨t, -, rfl⟩ := List.mem_map.1 hp
  exact t.not_mem_chars (by decide) (by decide)

/-- The text of a condition has the form of a condition. -/
theorem isConditionText_chars (e : CountExpr) : isConditionText e.chars = true := by
  rw [isConditionText, splitChar_chars, List.all_map, List.all_eq_true]
  exact fun t _ => isTermText_chars t

/-- A character other than those of terms and commas does not stand in the text of a condition. -/
theorem CountExpr.not_mem_chars {c : Char} (hd : isDigit c = false)
    (hs : c ∉ ['>', '<', '=', '.']) (hcomma : c ≠ ',') (e : CountExpr) : c ∉ e.chars := by
  intro h
  rw [CountExpr.chars, List.mem_append, List.mem_flatMap] at h
  rcases h with h | ⟨t, -, h⟩
  · exact e.first.not_mem_chars hd hs h
  · rcases List.mem_cons.1 h with h | h
    · exact hcomma h
    · exact t.not_mem_chars hd hs h

/-- Parts that have the form of terms are the texts of terms. -/
theorem exists_map_chars {parts : List (List Char)} (h : ∀ cs ∈ parts, isTermText cs = true) :
    ∃ ts : List CountTerm, parts = ts.map CountTerm.chars := by
  induction parts with
  | nil => exact ⟨[], rfl⟩
  | cons part parts ih =>
    rw [List.forall_mem_cons] at h
    obtain ⟨t, rfl⟩ := exists_chars_of_isTermText h.1
    obtain ⟨ts, rfl⟩ := ih h.2
    exact ⟨t :: ts, rfl⟩

/-- What has the form of a condition is the text of a condition. -/
theorem exists_chars_of_isConditionText {cs : List Char} (h : isConditionText cs = true) :
    ∃ e : CountExpr, cs = e.chars := by
  obtain ⟨first, others, hsplit, hjoin, -⟩ := splitChar_parts ',' cs
  rw [isConditionText, hsplit, List.all_cons, Bool.and_eq_true, List.all_eq_true] at h
  obtain ⟨t, rfl⟩ := exists_chars_of_isTermText h.1
  obtain ⟨ts, rfl⟩ := exists_map_chars h.2
  exact ⟨⟨t, ts⟩, by rw [CountExpr.chars_eq_join, hjoin]⟩

/-- The text of a condition is refused for its first number that counts cannot reach. -/
theorem CountExpr.read_text (e : CountExpr) :
    CountExpr.read e.text =
      refuseNumber ((e.terms.flatMap CountTerm.numbers).find? (maxCount < ·)) e := by
  rw [CountExpr.read, CountExpr.text, String.toList_ofList, splitChar_chars,
    CountTerm.readAll_chars]
  cases (e.terms.flatMap CountTerm.numbers).find? (maxCount < ·) <;> rfl

/-- The text of a condition is read as that condition exactly when counts can reach its numbers. -/
theorem CountExpr.read_text_eq_ok_iff {e f : CountExpr} :
    CountExpr.read e.text = .ok f ↔ e.InRange ∧ e = f := by
  have hrange : e.InRange ↔ (e.terms.flatMap CountTerm.numbers).find? (maxCount < ·) = none := by
    simp only [CountExpr.InRange, CountTerm.inRange_iff, List.find?_flatMap,
      List.findSome?_eq_none_iff]
  rw [CountExpr.read_text, refuseNumber_eq_ok_iff, hrange]

end Playback
