import Mathlib.Data.List.Induction
import Playback.Command.Shape

/-!
# Numbers and their texts

The numbers of command lines are written without leading zeros: they are the decimal texts of the
natural numbers, and reading one gives back the number whose text it is. Counts that a template
renders to may have a sign and leading zeros.
-/

namespace Playback.Text

theorem isDigit_eq (c : Char) : isDigit c = c.isDigit := by
  rw [Bool.eq_iff_iff, Char.isDigit_iff_toNat, isDigit, Bool.and_eq_true, decide_eq_true_iff,
    decide_eq_true_iff]
  rfl

/-- The codes of digits. -/
theorem toNat_of_isDigit {c : Char} (h : isDigit c = true) : 48 ≤ c.toNat ∧ c.toNat ≤ 57 := by
  rw [isDigit_eq, Char.isDigit_iff_toNat] at h
  exact h

/-- A digit, counted from zero, has its own character. -/
theorem digitChar_sub {c : Char} (h : isDigit c = true) : Nat.digitChar (c.toNat - 48) = c := by
  obtain ⟨h48, h57⟩ := toNat_of_isDigit h
  have hv := Nat.toNat_digitChar_of_lt_ten (n := c.toNat - 48) (by omega)
  exact Char.toNat_inj.1 (by omega)

/-- The value of a digit that is not zero is positive. -/
theorem toNat_sub_pos {c : Char} (h : isDigit c = true) (hc : c ≠ '0') : 0 < c.toNat - 48 := by
  obtain ⟨h48, -⟩ := toNat_of_isDigit h
  have hne : c.toNat ≠ 48 := fun he => hc (Char.toNat_inj.1 he)
  omega

theorem digitsValue_concat (cs : List Char) (c : Char) :
    digitsValue (cs ++ [c]) = 10 * digitsValue cs + (c.toNat - 48) := by
  rw [digitsValue, List.foldl_append, ← digitsValue, List.foldl_cons, List.foldl_nil, Nat.mul_comm]

/-- The value of digits is that of core. -/
theorem digitsValue_eq (cs : List Char) : digitsValue cs = Nat.ofDigitChars 10 cs 0 := by
  simp only [digitsValue, Nat.ofDigitChars_eq_foldl, Nat.mul_comm 10]
  rfl

@[simp] theorem digitsValue_natDigits (n : Nat) : digitsValue (natDigits n) = n := by
  rw [digitsValue_eq, natDigits, Nat.ofDigitChars_ten_toDigits]

theorem natDigits_inj {m n : Nat} : natDigits m = natDigits n ↔ m = n := by
  constructor
  · intro h
    rw [← digitsValue_natDigits m, h, digitsValue_natDigits]
  · exact congrArg natDigits

/-- The text of a number has digits only. -/
theorem isDigit_of_mem_natDigits {n : Nat} {c : Char} (h : c ∈ natDigits n) : isDigit c = true := by
  rw [isDigit_eq]
  exact Nat.isDigit_of_mem_toDigits (by decide) (by decide) h

theorem natDigits_ne_nil (n : Nat) : natDigits n ≠ [] :=
  Nat.toDigits_ne_nil

/-- A character that is no digit does not stand in the text of a number. -/
theorem not_mem_natDigits {n : Nat} {c : Char} (h : isDigit c = false) : c ∉ natDigits n :=
  fun hm => Bool.false_ne_true (h.symm.trans (isDigit_of_mem_natDigits hm))

/-- Digits of which the first is not zero are the text of their positive value. -/
theorem natDigits_digitsValue {cs : List Char} (hne : cs ≠ []) (hd : ∀ c ∈ cs, isDigit c = true)
    (hz : cs.head? ≠ some '0') : 0 < digitsValue cs ∧ natDigits (digitsValue cs) = cs := by
  -- from the last digit, which is the one that a number has beyond its tenth
  induction cs using List.reverseRecOn with
  | nil => exact absurd rfl hne
  | append_singleton cs c ih =>
    have hc : isDigit c = true := hd c (by simp)
    have h57 : c.toNat ≤ 57 := (toNat_of_isDigit hc).2
    have hlt : c.toNat - 48 < 10 := by omega
    rw [digitsValue_concat]
    cases cs with
    | nil =>
      have hpos := toNat_sub_pos hc (by simpa using hz)
      refine ⟨by omega, ?_⟩
      have hv : 10 * digitsValue [] + (c.toNat - 48) = c.toNat - 48 := by simp [digitsValue]
      rw [hv, natDigits, Nat.toDigits_of_lt_base hlt, digitChar_sub hc]
      rfl
    | cons d cs =>
      obtain ⟨hpos, htext⟩ := ih (by simp) (fun x hx => hd x (List.mem_append_left _ hx)) hz
      refine ⟨by omega, ?_⟩
      have happ := Nat.toDigits_append_toDigits (b := 10) (by decide) hpos hlt
      rw [Nat.toDigits_of_lt_base hlt, digitChar_sub hc] at happ
      rw [natDigits, ← happ, ← natDigits, htext]

/-- The text of a positive number does not start with a zero. -/
theorem head?_natDigits_ne_zero {n : Nat} (h : 0 < n) : (natDigits n).head? ≠ some '0' := by
  induction n using Nat.strongRecOn with
  | ind n ih =>
    by_cases hlt : n < 10
    · rw [natDigits, Nat.toDigits_of_lt_base hlt, List.head?_cons, ne_eq, Option.some_inj,
        Nat.digitChar_eq_zero]
      omega
    · have hpos : 0 < n / 10 := by omega
      have hhead := ih (n / 10) (by omega) hpos
      rw [natDigits, Nat.toDigits_of_base_le (by decide) (by omega), ← natDigits,
        List.head?_append, List.head?_eq_some_head (natDigits_ne_nil _)]
      rwa [List.head?_eq_some_head (natDigits_ne_nil _)] at hhead

/-- The plain numbers are the texts of numbers. -/
theorem isPlainNumber_iff {cs : List Char} : isPlainNumber cs = true ↔ ∃ n, cs = natDigits n := by
  simp only [isPlainNumber, Bool.and_eq_true, Bool.not_eq_true', List.isEmpty_eq_false_iff,
    List.all_eq_true, Bool.or_eq_true, beq_iff_eq, bne_iff_ne, and_assoc]
  constructor
  · rintro ⟨hne, hd, rfl | hz⟩
    · exact ⟨0, rfl⟩
    · exact ⟨digitsValue cs, (natDigits_digitsValue hne hd hz).2.symm⟩
  · rintro ⟨n, rfl⟩
    refine ⟨natDigits_ne_nil n, fun c hc => isDigit_of_mem_natDigits hc, ?_⟩
    rcases Nat.eq_zero_or_pos n with rfl | hpos
    · exact .inl rfl
    · exact .inr (head?_natDigits_ne_zero hpos)

@[simp] theorem isPlainNumber_natDigits (n : Nat) : isPlainNumber (natDigits n) = true :=
  isPlainNumber_iff.2 ⟨n, rfl⟩

/-- The text of a number is read as that number. -/
@[simp] theorem natOfDigits?_natDigits (n : Nat) : natOfDigits? (natDigits n) = some n := by
  have hall : (natDigits n).all isDigit = true :=
    List.all_eq_true.2 fun c hc => isDigit_of_mem_natDigits hc
  have hne : (natDigits n).isEmpty = false := List.isEmpty_eq_false_iff.2 (natDigits_ne_nil n)
  rw [natOfDigits?, hne, hall, digitsValue_natDigits]
  rfl

/-- The text of a number is read as that number when it is below the bound, and else not at all. -/
theorem natBelow?_natDigits (bound n : Nat) :
    natBelow? bound (natDigits n) = if n < bound then some n else none := by
  have hplus : ∀ digits, natDigits n = '+' :: digits → False := by
    intro digits he
    have hm : '+' ∈ natDigits n := he ▸ List.mem_cons_self
    exact not_mem_natDigits (by decide) hm
  rw [natBelow?, natOfDigits?_natDigits, Option.filter_some]
  · simp only [decide_eq_true_eq]
  · exact hplus

/-! ## Counts -/

/-- The natural number that a non-empty text of decimal digits writes. -/
def WritesNumber (digits : List Char) (n : Nat) : Prop :=
  digits ≠ [] ∧ (∀ c ∈ digits, c.isDigit = true) ∧ Nat.ofDigitChars 10 digits 0 = n

/-- The count that a text writes: decimal digits with an optional sign, within 64 bits. -/
inductive WritesCount : List Char → Int → Prop where
  /-- Without a sign. -/
  | unsigned {digits : List Char} {n : Nat} (h : WritesNumber digits n) (hn : n ≤ maxCount) :
    WritesCount digits n
  /-- With a plus sign. -/
  | plus {digits : List Char} {n : Nat} (h : WritesNumber digits n) (hn : n ≤ maxCount) :
    WritesCount ('+' :: digits) n
  /-- With a minus sign. -/
  | minus {digits : List Char} {n : Nat} (h : WritesNumber digits n) (hn : n ≤ maxCount + 1) :
    WritesCount ('-' :: digits) (-n)

/-- A text is read as a number exactly when it writes that number. -/
theorem natOfDigits?_eq_some_iff {cs : List Char} {n : Nat} :
    natOfDigits? cs = some n ↔ WritesNumber cs n := by
  simp only [natOfDigits?, WritesNumber, Option.ite_none_right_eq_some, Bool.and_eq_true,
    Bool.not_eq_true', List.isEmpty_eq_false_iff, List.all_eq_true, isDigit_eq, digitsValue_eq,
    Option.some.injEq, and_assoc]

/-- The number that a text writes starts with a digit. -/
theorem WritesNumber.head?_ne {c : Char} {digits : List Char} {n : Nat} (h : WritesNumber digits n)
    (hc : c.isDigit = false) : digits.head? ≠ some c := by
  intro hhead
  have hdigit := h.2.1 c (List.mem_of_mem_head? hhead)
  rw [hc] at hdigit
  cases hdigit

/-- The number below a bound that a text writes: decimal digits with an optional plus sign. -/
inductive WritesBelow (bound : Nat) : List Char → Nat → Prop where
  /-- Without a sign. -/
  | unsigned {digits : List Char} {n : Nat} (h : WritesNumber digits n) (hn : n < bound) :
    WritesBelow bound digits n
  /-- With a plus sign. -/
  | plus {digits : List Char} {n : Nat} (h : WritesNumber digits n) (hn : n < bound) :
    WritesBelow bound ('+' :: digits) n

/-- A text is read as a number below a bound exactly when it writes that number. -/
theorem natBelow?_eq_some_iff {bound n : Nat} {cs : List Char} :
    natBelow? bound cs = some n ↔ WritesBelow bound cs n := by
  have hplus (digits : List Char) :
      natBelow? bound ('+' :: digits) = (natOfDigits? digits).filter (· < bound) := rfl
  have hunsigned (hne : cs.head? ≠ some '+') :
      natBelow? bound cs = (natOfDigits? cs).filter (· < bound) := by
    rw [natBelow?]
    rintro digits rfl
    exact hne rfl
  constructor
  · intro h
    by_cases hsign : cs.head? = some '+'
    · obtain ⟨digits, rfl⟩ := List.head?_eq_some_iff.1 hsign
      rw [hplus, Option.filter_eq_some_iff, decide_eq_true_iff] at h
      exact .plus (natOfDigits?_eq_some_iff.1 h.1) h.2
    · rw [hunsigned hsign, Option.filter_eq_some_iff, decide_eq_true_iff] at h
      exact .unsigned (natOfDigits?_eq_some_iff.1 h.1) h.2
  · intro h
    cases h with
    | unsigned h hn =>
      rw [hunsigned (h.head?_ne (by decide)), natOfDigits?_eq_some_iff.2 h, Option.filter_some,
        if_pos (decide_eq_true hn)]
    | plus h hn =>
      rw [hplus, natOfDigits?_eq_some_iff.2 h, Option.filter_some, if_pos (decide_eq_true hn)]

/-- There is one more count below zero than above. -/
theorem isCount_iff {n : Int} : isCount n = true ↔ -(maxCount + 1) ≤ n ∧ n ≤ maxCount := by
  simp only [isCount, maxCount, Bool.and_eq_true, decide_eq_true_eq]
  omega

/-- Behind a minus sign a number is read as a negative count. -/
theorem countOf?_minus (digits : List Char) :
    countOf? ('-' :: digits) =
      ((natOfDigits? digits).map fun n : Nat => -(n : Int)).filter isCount := by
  rw [countOf?]
  cases natOfDigits? digits <;> rfl

/-- Behind a plus sign a number is read as a count. -/
theorem countOf?_plus (digits : List Char) :
    countOf? ('+' :: digits) =
      ((natOfDigits? digits).map fun n : Nat => (n : Int)).filter isCount := by
  rw [countOf?]
  cases natOfDigits? digits <;> rfl

/-- Without a sign a number is read as a count. -/
theorem countOf?_of_unsigned {cs : List Char} (hminus : cs.head? ≠ some '-')
    (hplus : cs.head? ≠ some '+') :
    countOf? cs = ((natOfDigits? cs).map fun n : Nat => (n : Int)).filter isCount := by
  rw [countOf?]
  · cases natOfDigits? cs <;> rfl
  · rintro digits rfl
    exact hminus rfl
  · rintro digits rfl
    exact hplus rfl

/-- A text is read as a count exactly when it writes that count. -/
theorem countOf?_eq_some_iff {cs : List Char} {n : Int} :
    countOf? cs = some n ↔ WritesCount cs n := by
  constructor
  · intro h
    by_cases hminus : cs.head? = some '-'
    · obtain ⟨digits, rfl⟩ := List.head?_eq_some_iff.1 hminus
      rw [countOf?_minus, Option.filter_eq_some_iff, Option.map_eq_some_iff, isCount_iff] at h
      obtain ⟨⟨m, hm, rfl⟩, hlow, -⟩ := h
      exact .minus (natOfDigits?_eq_some_iff.1 hm) (by omega)
    by_cases hplus : cs.head? = some '+'
    · obtain ⟨digits, rfl⟩ := List.head?_eq_some_iff.1 hplus
      rw [countOf?_plus, Option.filter_eq_some_iff, Option.map_eq_some_iff, isCount_iff] at h
      obtain ⟨⟨m, hm, rfl⟩, -, hhigh⟩ := h
      exact .plus (natOfDigits?_eq_some_iff.1 hm) (by omega)
    · rw [countOf?_of_unsigned hminus hplus, Option.filter_eq_some_iff, Option.map_eq_some_iff,
        isCount_iff] at h
      obtain ⟨⟨m, hm, rfl⟩, -, hhigh⟩ := h
      exact .unsigned (natOfDigits?_eq_some_iff.1 hm) (by omega)
  · intro h
    cases h with
    | @unsigned _ m h hm =>
      rw [countOf?_of_unsigned (h.head?_ne (by decide)) (h.head?_ne (by decide)),
        natOfDigits?_eq_some_iff.2 h, Option.map_some, Option.filter_some,
        if_pos (isCount_iff.2 (by omega))]
    | @plus digits m h hm =>
      rw [countOf?_plus, natOfDigits?_eq_some_iff.2 h, Option.map_some, Option.filter_some,
        if_pos (isCount_iff.2 (by omega))]
    | @minus digits m h hm =>
      rw [countOf?_minus, natOfDigits?_eq_some_iff.2 h, Option.map_some, Option.filter_some,
        if_pos (isCount_iff.2 (by omega))]

/-- What is read as a count is one. -/
theorem isCount_of_countOf? {cs : List Char} {n : Int} (h : countOf? cs = some n) :
    isCount n = true := by
  unfold countOf? at h
  exact (Option.filter_eq_some_iff.1 h).2

end Playback.Text
