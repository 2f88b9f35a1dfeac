import Mathlib.Tactic.SplitIfs
import Playback.Json.Printer
import Playback.Json.Reader
import Playback.Proofs.Text.Digits

/-!
# Reading back texts and numbers

A quoted text is read back as that text, and the decimal text of an integer as that integer if 64
bits hold it. A quoted text stands on one line, since line feeds in it are escaped.
-/

namespace Playback.Json

open Text

/-! ## Texts -/

/-- How a character can be written in a quoted text. -/
inductive Written (c : Char) : List Char → Prop where
  /-- By a letter or sign that stands for it behind a backslash. -/
  | sign {d : Char} (h : escaped? d = some c) : Written c ['\\', d]
  /-- By its number, if it is below 32. -/
  | number (h : c.toNat < 32) :
    Written c ['\\', 'u', '0', '0', hexChar (c.toNat / 16), hexChar (c.toNat % 16)]
  /-- By itself. -/
  | plain (hquote : c ≠ '"') (hslash : c ≠ '\\') (hlow : ¬ c.toNat < 32) : Written c [c]

/-- A character is written in one of these ways. -/
theorem written_escapeChar (c : Char) : Written c (escapeChar c) := by
  unfold escapeChar
  split_ifs with hquote hslash hfeed hreturn htab hback hform hlow
  · subst hquote
    exact .sign rfl
  · subst hslash
    exact .sign rfl
  · subst hfeed
    exact .sign rfl
  · subst hreturn
    exact .sign rfl
  · subst htab
    exact .sign rfl
  · subst hback
    exact .sign rfl
  · subst hform
    exact .sign rfl
  · exact .number hlow
  · exact .plain hquote hslash hlow

/-- A hexadecimal digit is read back. -/
theorem hexDigit?_hexChar {n : Nat} (h : n < 16) : hexDigit? (hexChar n) = some n := by
  have hall : ∀ k < 16, hexDigit? (hexChar k) = some k := by decide
  exact hall n h

/-- The number of a character below 32 is read back. -/
theorem readEscapedUnit_hexChars {c : Char} (h : c.toNat < 32) (rest : List Char) :
    readEscapedUnit ('0' :: '0' :: hexChar (c.toNat / 16) :: hexChar (c.toNat % 16) :: rest) =
      some (c, rest) := by
  have hzero : hexDigit? '0' = some 0 := by decide
  have hhigh : hexDigit? (hexChar (c.toNat / 16)) = some (c.toNat / 16) :=
    hexDigit?_hexChar (by omega)
  have hlow : hexDigit? (hexChar (c.toNat % 16)) = some (c.toNat % 16) :=
    hexDigit?_hexChar (by omega)
  have hvalue : ((0 * 16 + 0) * 16 + c.toNat / 16) * 16 + c.toNat % 16 = c.toNat := by omega
  have hunit : readUnit ('0' :: '0' :: hexChar (c.toNat / 16) :: hexChar (c.toNat % 16) :: rest) =
      some (c.toNat, rest) := by
    simp only [readUnit, hzero, hhigh, hlow, Option.bind_eq_bind, Option.bind_some, hvalue]
    rfl
  have hpair : ¬ (0xDC00 ≤ c.toNat ∧ c.toNat ≤ 0xDFFF) := by omega
  have hfirst : ¬ (0xD800 ≤ c.toNat ∧ c.toNat ≤ 0xDBFF) := by omega
  simp only [readEscapedUnit, hunit, Option.bind_eq_bind, Option.bind_some, if_neg hpair,
    if_neg hfirst, Char.ofNat_toNat]

/-- A character that is escaped by its number is read back. -/
theorem readText_numbered {c : Char} (h : c.toNat < 32) (fuel : Nat) (rest : List Char) :
    readText (fuel + 1)
        (['\\', 'u', '0', '0', hexChar (c.toNat / 16), hexChar (c.toNat % 16)] ++ rest) =
      (readText fuel rest).map fun read => (c :: read.1, read.2) := by
  have hunit := readEscapedUnit_hexChars h rest
  simp only [List.cons_append, List.nil_append, readText, hunit, Option.bind_eq_bind,
    Option.bind_some]
  cases readText fuel rest <;> rfl

/-- A character that is escaped by a letter or sign is read back. -/
theorem readText_escaped {c d : Char} (h : escaped? d = some c) (fuel : Nat) (rest : List Char) :
    readText (fuel + 1) ('\\' :: d :: rest) =
      (readText fuel rest).map fun read => (c :: read.1, read.2) := by
  have hunit : d ≠ 'u' := by
    rintro rfl
    cases h
  rw [readText, h]
  · cases readText fuel rest <;> rfl
  · exact hunit

/-- A character that is not escaped is read back. -/
theorem readText_plain {c : Char} (hquote : c ≠ '"') (hslash : c ≠ '\\') (hlow : ¬ c.toNat < 32)
    (fuel : Nat) (rest : List Char) :
    readText (fuel + 1) (c :: rest) =
      (readText fuel rest).map fun read => (c :: read.1, read.2) := by
  have hplain : ¬ (c.toNat < 0x20 ∨ c = '\\') := not_or.2 ⟨hlow, hslash⟩
  rw [readText, if_neg hplain]
  · exact hquote
  · exact fun _ hstart _ => hslash hstart
  · exact fun _ _ hstart _ => hslash hstart

/-- A character of a quoted text is read back. -/
theorem readText_escapeChar (c : Char) (fuel : Nat) (rest : List Char) :
    readText (fuel + 1) (escapeChar c ++ rest) =
      (readText fuel rest).map fun read => (c :: read.1, read.2) := by
  have hwritten := written_escapeChar c
  generalize escapeChar c = cs at hwritten
  cases hwritten with
  | sign h => exact readText_escaped h fuel rest
  | number h => exact readText_numbered h fuel rest
  | plain hquote hslash hlow => exact readText_plain hquote hslash hlow fuel rest

/-- A quoted text is read back, whatever stands behind it. -/
theorem readText_quoted {cs : List Char} {fuel : Nat} (hfuel : cs.length < fuel)
    (rest : List Char) :
    readText fuel (cs.flatMap escapeChar ++ '"' :: rest) = some (cs, rest) := by
  induction cs generalizing fuel with
  | nil =>
    obtain ⟨fuel, rfl⟩ := Nat.exists_eq_add_one_of_ne_zero (Nat.ne_of_gt hfuel)
    rfl
  | cons c cs ih =>
    obtain ⟨fuel, rfl⟩ := Nat.exists_eq_add_one_of_ne_zero (Nat.ne_of_gt (Nat.zero_lt_of_lt hfuel))
    have hrest := ih (Nat.lt_of_succ_lt_succ hfuel)
    rw [List.flatMap_cons, List.append_assoc, readText_escapeChar, hrest]
    rfl

/-- A quoted text has no fewer characters than the text itself. -/
theorem length_le_length_flatMap (cs : List Char) : cs.length ≤ (cs.flatMap escapeChar).length := by
  induction cs with
  | nil => exact Nat.le_refl 0
  | cons c cs ih =>
    have hpos : 0 < (escapeChar c).length := by
      have hwritten := written_escapeChar c
      generalize escapeChar c = written at hwritten
      cases hwritten <;> exact Nat.zero_lt_succ _
    rw [List.flatMap_cons, List.length_append, List.length_cons]
    omega

/-- Behind its opening quote, a quoted text is read back with as many steps as there are characters.
-/
theorem readText_length (cs behind : List Char) :
    readText ((cs.flatMap escapeChar ++ '"' :: behind).length + 1)
      (cs.flatMap escapeChar ++ '"' :: behind) = some (cs, behind) := by
  have hlength := length_le_length_flatMap cs
  refine readText_quoted ?_ behind
  rw [List.length_append]
  omega

/-- A quoted text begins with its opening quote. -/
theorem quoted_append (s : String) (behind : List Char) :
    quoted s ++ behind = '"' :: (s.toList.flatMap escapeChar ++ '"' :: behind) := by
  rw [quoted, List.append_assoc]
  rfl

/-! ## Numbers -/

/-- Behind a number stands nothing that could go on it. -/
def EndsNumber (behind : List Char) : Prop :=
  ∀ c ∈ behind.head?, isDigit c = false ∧ c ≠ '.' ∧ c ≠ 'e' ∧ c ≠ 'E'

theorem endsNumber_nil : EndsNumber [] := by
  intro c h
  cases h

/-- Digits behind a number make it no smaller. -/
theorem le_foldl_digits (cs : List Char) (n : Nat) :
    n ≤ cs.foldl (fun n c => n * 10 + (c.toNat - 48)) n := by
  induction cs generalizing n with
  | nil => exact Nat.le_refl n
  | cons c cs ih =>
    have hrest := ih (n * 10 + (c.toNat - 48))
    rw [List.foldl_cons]
    omega

/-- A significand takes up all digits of a number that fits in 64 bits. -/
theorem readSignificand_digits {cs behind : List Char} (hdigits : ∀ c ∈ cs, isDigit c = true)
    (hbehind : EndsNumber behind) {n : Nat}
    (hfits : cs.foldl (fun n c => n * 10 + (c.toNat - 48)) n < Nat.pow 2 64) (taken : Nat) :
    readSignificand n (cs ++ behind) taken 0 =
      (cs.foldl (fun n c => n * 10 + (c.toNat - 48)) n, taken + cs.length, 0, behind) := by
  induction cs generalizing n taken with
  | nil =>
    cases behind with
    | nil => rfl
    | cons c behind =>
      obtain ⟨hdigit, -⟩ := hbehind c rfl
      rw [List.nil_append, readSignificand, hdigit]
      rfl
  | cons c cs ih =>
    obtain ⟨hdigit, hothers⟩ := List.forall_mem_cons.1 hdigits
    rw [List.foldl_cons] at hfits
    have hnext : n * 10 + (c.toNat - 48) < Nat.pow 2 64 :=
      Nat.lt_of_le_of_lt (le_foldl_digits cs _) hfits
    rw [List.cons_append, readSignificand, hdigit, if_pos rfl, if_pos ⟨rfl, hnext⟩,
      ih hothers hfits, List.foldl_cons, List.length_cons]
    congr 2
    omega

/-- The text of a number begins with a digit. -/
theorem exists_natDigits_eq_cons (n : Nat) :
    ∃ c cs, natDigits n = c :: cs ∧ isDigit c = true := by
  obtain ⟨c, cs, hcs⟩ := List.exists_cons_of_ne_nil (natDigits_ne_nil n)
  exact ⟨c, cs, hcs, isDigit_of_mem_natDigits (hcs ▸ List.mem_cons_self)⟩

/-- If the text of a number begins with a zero, no digit stands behind that. -/
theorem not_leadingZero_natDigits (n : Nat) {behind : List Char} (hbehind : EndsNumber behind) :
    ¬ ((natDigits n ++ behind).head? = some '0' ∧
      ((natDigits n ++ behind).drop 1).head?.any isDigit = true) := by
  rintro ⟨hzero, hnext⟩
  rcases Nat.eq_zero_or_pos n with rfl | hpos
  · rw [natDigits, Nat.toDigits_zero, List.singleton_append, List.drop_one, List.tail_cons,
      Option.any_eq_true] at hnext
    obtain ⟨c, hc, hdigit⟩ := hnext
    rw [(hbehind c hc).1] at hdigit
    cases hdigit
  · obtain ⟨c, cs, hcs, -⟩ := exists_natDigits_eq_cons n
    have hhead := head?_natDigits_ne_zero hpos
    rw [hcs] at hzero hhead
    exact hhead hzero

/-- The text of a number that fits in 64 bits is read back. With a minus sign before it, it has to
fit in 63 bits, or be the number behind those, and zero is no integer then. -/
theorem readMagnitude_natDigits (negative : Bool) {n : Nat} (hfits : n < Nat.pow 2 64)
    {behind : List Char} (hbehind : EndsNumber behind) :
    readMagnitude negative (natDigits n ++ behind) =
      if negative then
        if n = 0 ∨ Nat.pow 2 63 < n then some (.real (-Float.ofNat n), behind)
        else some (.integer (-n), behind)
      else some (.integer n, behind) := by
  have hfirst : (natDigits n ++ behind).head?.any isDigit = true := by
    obtain ⟨c, cs, hcs, hdigit⟩ := exists_natDigits_eq_cons n
    rw [hcs]
    exact hdigit
  have hguard : ¬ ((!(natDigits n ++ behind).head?.any isDigit) = true ∨
      ((natDigits n ++ behind).head? == some '0') = true ∧
        ((natDigits n ++ behind).drop 1).head?.any isDigit = true) := by
    rw [hfirst, beq_iff_eq]
    simpa using not_leadingZero_natDigits n hbehind
  have hexponent : ¬ (behind.head? = some 'e' ∨ behind.head? = some 'E') := by
    rintro (h | h)
    · exact (hbehind _ h).2.2.1 rfl
    · exact (hbehind _ h).2.2.2 rfl
  have hread : readSignificand 0 (natDigits n ++ behind) 0 0 =
      (n, 0 + (natDigits n).length, 0, behind) := by
    have hvalue : (natDigits n).foldl (fun n c => n * 10 + (c.toNat - 48)) 0 = n :=
      digitsValue_natDigits n
    rw [readSignificand_digits (fun _ h => isDigit_of_mem_natDigits h) hbehind (by rwa [hvalue]),
      hvalue]
  simp only [readMagnitude, if_neg hguard, hread]
  split
  · exact absurd rfl (hbehind '.' rfl).2.1
  · rw [if_neg hexponent, if_neg (Nat.lt_irrefl 0)]
    cases negative <;> rfl

/-! ## One line -/

/-- Written characters are no line feeds. -/
theorem not_mem_escapeChar (c : Char) : '\n' ∉ escapeChar c := by
  have hdigit : ∀ n < 16, hexChar n ≠ '\n' := by decide
  have hwritten := written_escapeChar c
  generalize escapeChar c = cs at hwritten
  cases hwritten with
  | @sign d h =>
    have hd : d ≠ '\n' := by
      rintro rfl
      cases h
    simp [hd.symm]
  | number h =>
    have hhigh := hdigit (c.toNat / 16) (by omega)
    have hlow := hdigit (c.toNat % 16) (by omega)
    simp [hhigh.symm, hlow.symm]
  | plain hquote hslash hlow =>
    rintro hmem
    rw [← List.mem_singleton.1 hmem] at hlow
    exact hlow (by decide)

/-- A quoted text stands on one line. -/
theorem not_mem_quoted (s : String) : '\n' ∉ quoted s := by
  have hchars : '\n' ∉ s.toList.flatMap escapeChar := fun h => by
    obtain ⟨c, -, hc⟩ := List.mem_flatMap.1 h
    exact not_mem_escapeChar c hc
  simp [quoted, hchars]

/-- The decimal text of an integer stands on one line. -/
theorem not_mem_intDigits (n : Int) : '\n' ∉ intDigits n := by
  cases n with
  | ofNat n => exact not_mem_natDigits (by decide)
  | negSucc n =>
    have hdigits : '\n' ∉ natDigits (n + 1) := not_mem_natDigits (by decide)
    simp [intDigits, hdigits]

end Playback.Json
