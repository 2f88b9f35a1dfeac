import Mathlib.Data.Set.List
import Playback.Proofs.Count.RoundTrip

/-!
# Reading conditions on counts

A text is a condition on counts when each of its parts between commas is a term: digits, alone or
behind a comparison sign, or digits on both sides of two dots. What is read stands for the counts
that one of the terms stands for, and its own text is the one that was read but for leading zeros.
-/

namespace Playback

open Text

/-! ## Terms as they are written -/

/-- A text of digits writes a number that counts can reach. -/
def WritesLimit (digits : List Char) (n : Nat) : Prop :=
  WritesNumber digits n ∧ n ≤ maxCount

namespace CountTerm

/-- The texts that write a term. The digits may have leading zeros. -/
inductive WrittenAs : CountTerm → List Char → Prop where
  /-- Digits alone. -/
  | exactly {digits : List Char} {n : Nat} (h : WritesLimit digits n) :
    WrittenAs (.exactly n) digits
  /-- Digits behind a sign. -/
  | above {digits : List Char} {n : Nat} (h : WritesLimit digits n) :
    WrittenAs (.above n) ('>' :: digits)
  /-- Digits behind a sign of two characters. -/
  | atLeast {digits : List Char} {n : Nat} (h : WritesLimit digits n) :
    WrittenAs (.atLeast n) ('>' :: '=' :: digits)
  /-- Digits behind a sign. -/
  | below {digits : List Char} {n : Nat} (h : WritesLimit digits n) :
    WrittenAs (.below n) ('<' :: digits)
  /-- Digits behind a sign of two characters. -/
  | atMost {digits : List Char} {n : Nat} (h : WritesLimit digits n) :
    WrittenAs (.atMost n) ('<' :: '=' :: digits)
  /-- Digits on both sides of two dots. -/
  | within {before behind : List Char} {low high : Nat} (hlow : WritesLimit before low)
    (hhigh : WritesLimit behind high) :
    WrittenAs (.within low high) (before ++ '.' :: '.' :: behind)

/-- The counts that a term stands for. Where `low` is above `high` there are none between them. -/
def counts : CountTerm → Set Int
  | .exactly n => {count | count = n}
  | .above n => {count | n < count}
  | .atLeast n => {count | n ≤ count}
  | .below n => {count | count < n}
  | .atMost n => {count | count ≤ n}
  | .within low high => {count | low ≤ count ∧ count ≤ high}

/-- A term holds of the counts that it stands for. -/
theorem holds_iff {t : CountTerm} {count : Int} : t.holds count = true ↔ count ∈ t.counts := by
  cases t <;> simp [holds, counts]

end CountTerm

/-! ## Reading terms -/

/-- A text is read as a limit exactly when it writes that limit. -/
theorem readLimit_eq_ok_iff {cs : List Char} {n : Nat} :
    readLimit cs = .ok n ↔ WritesLimit cs n := by
  have hnumber : (natOfDigits? cs).filter (· ≤ maxCount) = some n ↔ WritesLimit cs n := by
    rw [Option.filter_eq_some_iff, natOfDigits?_eq_some_iff, decide_eq_true_iff, WritesLimit]
  rw [readLimit, ← hnumber]
  cases (natOfDigits? cs).filter (· ≤ maxCount) with
  | none => simp
  | some m => simp

/-- A text that is no limit is refused as a number. -/
theorem readLimit_eq_error {cs : List Char} {fault : SyntaxFault}
    (h : readLimit cs = .error fault) : fault = .invalidNumber (String.ofList cs) := by
  unfold readLimit at h
  split at h
  · cases h
  · exact (Except.error.inj h).symm

/-- Where no dot stands, none of two can be cut at. -/
theorem cutAt?_dots_of_notMem {cs : List Char} (h : '.' ∉ cs) : cutAt? ['.', '.'] cs = none := by
  rw [cutAt?_eq_none_iff]
  exact fun hin => h (hin.subset List.mem_cons_self)

theorem WritesLimit.notMem {digits : List Char} {n : Nat} (h : WritesLimit digits n) {c : Char}
    (hc : c.isDigit = false) : c ∉ digits := by
  intro hmem
  have hdigit := h.1.2.1 c hmem
  rw [hc] at hdigit
  cases hdigit

theorem WritesLimit.ne_cons {digits : List Char} {n : Nat} (h : WritesLimit digits n) {c : Char}
    (hc : c.isDigit = false) (cs : List Char) : digits ≠ c :: cs := by
  rintro rfl
  exact h.notMem hc List.mem_cons_self

namespace CountTerm

/-- A text is read as a term exactly when it writes that term. -/
theorem read_eq_ok_iff {cs : List Char} {t : CountTerm} :
    CountTerm.read cs = .ok t ↔ t.WrittenAs cs := by
  constructor
  · intro h
    unfold CountTerm.read at h
    split at h
    · rename_i before behind hcut
      obtain ⟨low, hlow, h⟩ := bind_eq_ok_iff.1 h
      obtain ⟨high, hhigh, h⟩ := bind_eq_ok_iff.1 h
      obtain rfl := pure_eq_ok_iff.1 h
      have hcs : cs = before ++ '.' :: '.' :: behind := by simpa using eq_of_cutAt? hcut
      rw [hcs]
      exact .within (readLimit_eq_ok_iff.1 hlow) (readLimit_eq_ok_iff.1 hhigh)
    · split at h <;> obtain ⟨n, hn, rfl⟩ := map_eq_ok_iff.1 h <;>
        have hlimit := readLimit_eq_ok_iff.1 hn
      · exact .atLeast hlimit
      · exact .atMost hlimit
      · exact .above hlimit
      · exact .below hlimit
      · exact .exactly hlimit
  · intro h
    unfold CountTerm.read
    cases h with
    | @within before behind low high hlow hhigh =>
      have hcut : cutAt? ['.', '.'] (before ++ '.' :: '.' :: behind) = some (before, behind) :=
        cutAt?_append (hlow.notMem (by decide)) behind
      rw [hcut]
      simp only [readLimit_eq_ok_iff.2 hlow, readLimit_eq_ok_iff.2 hhigh]
      rfl
    | exactly h =>
      have hdots := cutAt?_dots_of_notMem (h.notMem (c := '.') (by decide))
      have hgt := h.ne_cons (c := '>') (by decide)
      have hlt := h.ne_cons (c := '<') (by decide)
      simp [hdots, hgt, hlt, readLimit_eq_ok_iff.2 h]
    | above h | below h =>
      have hdots := cutAt?_dots_of_notMem (h.notMem (c := '.') (by decide))
      have heq := h.ne_cons (c := '=') (by decide)
      have hlimit := readLimit_eq_ok_iff.2 h
      simp [cutAt?, afterPrefix?, *]
    | atLeast h | atMost h =>
      have hdots := cutAt?_dots_of_notMem (h.notMem (c := '.') (by decide))
      simp [cutAt?, afterPrefix?, hdots, readLimit_eq_ok_iff.2 h]

/-- Only numbers can keep a text from being a term. -/
theorem invalidNumber_of_read {cs : List Char} {fault : SyntaxFault}
    (h : CountTerm.read cs = .error fault) : ∃ number, fault = .invalidNumber number := by
  unfold CountTerm.read at h
  split at h
  · rcases bind_eq_error_iff.1 h with h | ⟨low, -, h⟩
    · exact ⟨_, readLimit_eq_error h⟩
    · rcases bind_eq_error_iff.1 h with h | ⟨high, -, h⟩
      · exact ⟨_, readLimit_eq_error h⟩
      · cases h
  · split at h <;> exact ⟨_, readLimit_eq_error (map_eq_error_iff.1 h)⟩

/-- Texts are read as terms when each of them is. -/
theorem readAll_eq_ok_iff {parts : List (List Char)} {ts : List CountTerm} :
    CountTerm.readAll parts = .ok ts ↔ parts.map CountTerm.read = ts.map .ok := by
  induction parts generalizing ts with
  | nil =>
    rw [readAll, List.map_nil, Except.ok.injEq]
    cases ts <;> simp
  | cons part parts ih =>
    simp only [readAll, bind_eq_ok_iff, pure_eq_ok_iff, ih, List.map_cons]
    constructor
    · rintro ⟨t, ht, others, hothers, rfl⟩
      rw [ht, hothers, List.map_cons]
    · intro h
      obtain ⟨t, others, rfl, ht, hothers⟩ := List.map_eq_cons_iff.1 h.symm
      exact ⟨t, ht.symm, others, hothers.symm, rfl⟩

/-- Terms are refused only for a number in one of them. -/
theorem invalidNumber_of_readAll {parts : List (List Char)} {fault : SyntaxFault}
    (h : CountTerm.readAll parts = .error fault) : ∃ number, fault = .invalidNumber number := by
  induction parts with
  | nil => cases h
  | cons part parts ih =>
    rw [readAll] at h
    rcases bind_eq_error_iff.1 h with h | ⟨t, -, h⟩
    · exact invalidNumber_of_read h
    · rcases bind_eq_error_iff.1 h with h | ⟨ts, -, h⟩
      · exact ih h
      · cases h

end CountTerm

/-! ## Leading zeros -/

/-- The text without the leading zeros of its numbers: a zero is dropped where a digit follows and
no digit that is kept stands right before it. -/
def dropZeros (behindDigit : Bool) : List Char → List Char
  | [] => []
  | c :: cs =>
    if !behindDigit && c == '0' && cs.head?.any isDigit then dropZeros false cs
    else c :: dropZeros (isDigit c) cs

/-- A text that does not start with a digit. -/
def StartsNoNumber (cs : List Char) : Prop :=
  ∀ c ∈ cs.head?, isDigit c = false

theorem dropZeros_zero {d : Char} (hd : isDigit d = true) (cs : List Char) :
    dropZeros false ('0' :: d :: cs) = dropZeros false (d :: cs) := by
  have hdigit : (d :: cs).head?.any isDigit = true := hd
  rw [dropZeros, hdigit]
  rfl

/-- Another digit is kept, and so is the last zero of a number. -/
theorem dropZeros_of_kept {c : Char} {cs : List Char} (h : c = '0' → StartsNoNumber cs)
    (behindDigit : Bool) : dropZeros behindDigit (c :: cs) = c :: dropZeros (isDigit c) cs := by
  have hkept : (!behindDigit && c == '0' && cs.head?.any isDigit) = false := by
    by_cases hc : c = '0'
    · have hdigit : cs.head?.any isDigit = false := by
        rw [Option.any_eq_false]
        exact h hc
      rw [hdigit, Bool.and_false]
    · rw [beq_false_of_ne hc, Bool.and_false, Bool.false_and]
  rw [dropZeros, hkept, if_neg Bool.false_ne_true]

theorem dropZeros_sign {c : Char} (hc : isDigit c = false) (behindDigit : Bool) (cs : List Char) :
    dropZeros behindDigit (c :: cs) = c :: dropZeros false cs := by
  rw [dropZeros_of_kept, hc]
  rintro rfl
  cases hc

theorem StartsNoNumber.dropZeros_eq {cs : List Char} (h : StartsNoNumber cs) (behindDigit : Bool) :
    dropZeros behindDigit cs = dropZeros false cs := by
  cases cs with
  | nil => rfl
  | cons c cs =>
    have hc : isDigit c = false := h c rfl
    rw [dropZeros_sign hc, dropZeros_sign hc]

/-- Behind a digit that is kept all digits are. -/
theorem dropZeros_digits {digits rest : List Char} (hdigits : ∀ c ∈ digits, isDigit c = true)
    (hrest : StartsNoNumber rest) :
    dropZeros true (digits ++ rest) = digits ++ dropZeros false rest := by
  induction digits with
  | nil => exact hrest.dropZeros_eq true
  | cons c digits ih =>
    rw [List.forall_mem_cons] at hdigits
    have hkeep := ih hdigits.2
    rw [List.cons_append, dropZeros, hdigits.1, hkeep]
    rfl

/-- A zero before digits does not change the number that they write. -/
theorem writesNumber_cons_zero {digits : List Char} {n : Nat} (hne : digits ≠ []) :
    WritesNumber ('0' :: digits) n ↔ WritesNumber digits n := by
  have hvalue : Nat.ofDigitChars 10 ('0' :: digits) 0 = Nat.ofDigitChars 10 digits 0 := rfl
  simp [WritesNumber, hvalue, hne]

/-- Digits of which the first is not zero are the text of the number that they write. -/
theorem natDigits_of_writesNumber {digits : List Char} {n : Nat} (h : WritesNumber digits n)
    (hzero : digits.head? ≠ some '0') : natDigits n = digits := by
  obtain ⟨hne, hdigits, hvalue⟩ := h
  have htext := natDigits_digitsValue hne (fun c hc => (isDigit_eq c).trans (hdigits c hc)) hzero
  rw [digitsValue_eq, hvalue] at htext
  exact htext.2

/-- Without leading zeros, digits are the text of the number that they write. -/
theorem dropZeros_number {digits rest : List Char} {n : Nat} (h : WritesNumber digits n)
    (hrest : StartsNoNumber rest) :
    dropZeros false (digits ++ rest) = natDigits n ++ dropZeros false rest := by
  have hdigits : ∀ c ∈ digits, isDigit c = true := fun c hc => (isDigit_eq c).trans (h.2.1 c hc)
  induction digits with
  | nil => exact absurd rfl h.1
  | cons c digits ih =>
    rw [List.forall_mem_cons] at hdigits
    have hbehind := dropZeros_digits hdigits.2 hrest
    by_cases hzero : c = '0' ∧ digits ≠ []
    · obtain ⟨rfl, hne⟩ := hzero
      obtain ⟨d, others, rfl⟩ := List.exists_cons_of_ne_nil hne
      have hd : isDigit d = true := hdigits.2 d List.mem_cons_self
      have hnumber := (writesNumber_cons_zero hne).1 h
      rw [← ih hnumber hdigits.2]
      exact dropZeros_zero hd (others ++ rest)
    -- what is left is a zero alone, or digits that start with another one
    · have hnil : c = '0' → digits = [] := fun hc => Classical.not_not.1 fun hne => hzero ⟨hc, hne⟩
      have hkept : c = '0' → StartsNoNumber (digits ++ rest) := by
        intro hc
        rw [hnil hc]
        exact hrest
      have htext : natDigits n = c :: digits := by
        by_cases hc : c = '0'
        · obtain rfl := hnil hc
          have hn : n = 0 := by
            rw [← h.2.2, hc]
            rfl
          rw [hn, hc]
          rfl
        · exact natDigits_of_writesNumber h (by simpa using hc)
      rw [List.cons_append, dropZeros_of_kept hkept, hdigits.1, hbehind, htext]
      rfl

/-- Without leading zeros, what writes a term is the text of the term. -/
theorem CountTerm.WrittenAs.dropZeros_append {t : CountTerm} {cs rest : List Char}
    (h : t.WrittenAs cs) (hrest : StartsNoNumber rest) :
    dropZeros false (cs ++ rest) = t.chars ++ dropZeros false rest := by
  cases h with
  | exactly h => exact dropZeros_number h.1 hrest
  | above h | below h =>
    rw [List.cons_append, dropZeros_sign (by decide), dropZeros_number h.1 hrest]
    rfl
  | atLeast h | atMost h =>
    rw [List.cons_append, List.cons_append, dropZeros_sign (by decide), dropZeros_sign (by decide),
      dropZeros_number h.1 hrest]
    rfl
  | @within before behind low high hlow hhigh =>
    have hdots : StartsNoNumber ('.' :: '.' :: (behind ++ rest)) := by
      rintro c ⟨⟩
      decide
    rw [List.append_assoc, List.cons_append, List.cons_append, dropZeros_number hlow.1 hdots,
      dropZeros_sign (by decide), dropZeros_sign (by decide), dropZeros_number hhigh.1 hrest,
      CountTerm.chars, List.append_assoc]
    rfl

/-- What stands behind a part of a text is empty or starts with a comma. -/
theorem startsNoNumber_join (parts : List (List Char)) :
    StartsNoNumber (parts.flatMap (',' :: ·)) := by
  cases parts with
  | nil => exact fun _ h => nomatch h
  | cons part parts =>
    rintro c ⟨⟩
    decide

/-- Without leading zeros, parts that are read as terms are the texts of the terms. -/
theorem dropZeros_join {parts : List (List Char)} {ts : List CountTerm}
    (h : parts.map CountTerm.read = ts.map .ok) :
    dropZeros false (parts.flatMap (',' :: ·)) = ts.flatMap fun t => ',' :: t.chars := by
  induction parts generalizing ts with
  | nil =>
    obtain rfl : ts = [] := List.map_eq_nil_iff.1 h.symm
    rfl
  | cons part parts ih =>
    obtain ⟨t, others, rfl, ht, hothers⟩ := List.map_eq_cons_iff.1 h.symm
    have hwritten : t.WrittenAs part := CountTerm.read_eq_ok_iff.1 ht.symm
    rw [List.flatMap_cons, List.cons_append, dropZeros_sign (by decide),
      hwritten.dropZeros_append (startsNoNumber_join parts), ih hothers.symm]
    rfl

/-! ## Conditions -/

/-- Counts can reach the numbers of a term that is written. -/
theorem CountTerm.WrittenAs.inRange {t : CountTerm} {cs : List Char} (h : t.WrittenAs cs) :
    t.InRange := by
  cases h with
  | exactly h | above h | atLeast h | below h | atMost h => exact h.2
  | within hlow hhigh => exact ⟨hlow.2, hhigh.2⟩

namespace CountExpr

/-- A text is read as a condition when its parts are read as the terms of the condition. -/
theorem read_eq_ok_iff {text : String} {e : CountExpr} :
    CountExpr.read text = .ok e ↔
      (splitChar ',' text.toList).map CountTerm.read = e.terms.map .ok := by
  rw [← CountTerm.readAll_eq_ok_iff, CountExpr.read, bind_eq_ok_iff]
  constructor
  · rintro ⟨ts, hts, h⟩
    cases ts with
    | nil => cases h
    | cons t ts =>
      cases h
      exact hts
  · exact fun h => ⟨e.terms, h, rfl⟩

/-- A condition that has been read from a text is the one that the text writes. -/
structure ReadFrom (e : CountExpr) (text : String) : Prop where
  /-- The text of the condition is the text that was read, without leading zeros. -/
  chars : e.chars = dropZeros false text.toList
  /-- It is read as this condition again. -/
  again : CountExpr.read e.text = .ok e
  /-- The condition holds of the counts that one of the terms in the text stands for. -/
  holds : ∀ count : Int, e.holds count = true ↔
    ∃ part ∈ splitChar ',' text.toList, ∃ t : CountTerm, t.WrittenAs part ∧ count ∈ t.counts

/-- What is read of a text is the condition that the text writes. -/
theorem readFrom_of_read {text : String} {e : CountExpr} (h : CountExpr.read text = .ok e) :
    e.ReadFrom text := by
  have hparts := read_eq_ok_iff.1 h
  have hterms (t : CountTerm) :
      t ∈ e.terms ↔ ∃ part ∈ splitChar ',' text.toList, t.WrittenAs part := by
    have hmem : t ∈ e.terms ↔ Except.ok t ∈ (splitChar ',' text.toList).map CountTerm.read := by
      rw [hparts]
      simp
    rw [hmem, List.mem_map]
    simp only [CountTerm.read_eq_ok_iff]
  obtain ⟨first, others, hsplit, hjoin, -⟩ := splitChar_parts ',' text.toList
  constructor
  · obtain ⟨t, ts⟩ := e
    rw [hsplit, CountExpr.terms, List.map_cons, List.map_cons, List.cons.injEq] at hparts
    have hfirst : t.WrittenAs first := CountTerm.read_eq_ok_iff.1 hparts.1
    rw [hjoin, hfirst.dropZeros_append (startsNoNumber_join others), dropZeros_join hparts.2]
    rfl
  · have hrange : e.InRange := by
      intro t ht
      obtain ⟨part, -, hwritten⟩ := (hterms t).1 ht
      exact hwritten.inRange
    exact CountExpr.read_text_eq_ok_iff.2 ⟨hrange, rfl⟩
  · intro count
    simp only [CountExpr.holds, List.any_eq_true, hterms, CountTerm.holds_iff]
    constructor
    · rintro ⟨t, ⟨part, hpart, hwritten⟩, hcount⟩
      exact ⟨part, hpart, t, hwritten, hcount⟩
    · rintro ⟨part, hpart, t, hwritten, hcount⟩
      exact ⟨t, ⟨part, hpart, hwritten⟩, hcount⟩

/-- A text has a condition when each part of it writes a term. -/
theorem exists_read_iff {text : String} :
    (∃ e, CountExpr.read text = .ok e) ↔
      ∀ part ∈ splitChar ',' text.toList, ∃ t : CountTerm, t.WrittenAs part := by
  have hlist : (∃ ts : List CountTerm,
        ts.map Except.ok = (splitChar ',' text.toList).map CountTerm.read) ↔
      ∀ part ∈ splitChar ',' text.toList, ∃ t : CountTerm, t.WrittenAs part := by
    rw [← Set.mem_range, Set.range_list_map, Set.mem_ofPred_eq, List.forall_mem_map]
    refine forall₂_congr fun part _ => exists_congr fun t => ?_
    rw [eq_comm, CountTerm.read_eq_ok_iff]
  rw [← hlist]
  constructor
  · rintro ⟨e, h⟩
    exact ⟨e.terms, (read_eq_ok_iff.1 h).symm⟩
  · rintro ⟨ts, hts⟩
    obtain ⟨first, others, hsplit, -⟩ := splitChar_parts ',' text.toList
    rw [hsplit, List.map_cons] at hts
    obtain ⟨t, ts, rfl, -⟩ := List.map_eq_cons_iff.1 hts
    rw [← List.map_cons, ← hsplit] at hts
    exact ⟨⟨t, ts⟩, read_eq_ok_iff.2 hts.symm⟩

/-- A condition is refused only for one of its numbers. -/
theorem invalidNumber_of_read {text : String} {fault : SyntaxFault}
    (h : CountExpr.read text = .error fault) : ∃ number, fault = .invalidNumber number := by
  rcases bind_eq_error_iff.1 h with h | ⟨ts, -, h⟩
  · exact CountTerm.invalidNumber_of_readAll h
  · cases ts with
    | nil => exact ⟨_, (Except.error.inj h).symm⟩
    | cons t ts => cases h

/-- A text is read as a condition exactly when each part of it writes a term, it is refused for a
number only, and what it is read as is the condition that it writes. -/
theorem readsWhatIsWritten (text : String) :
    ((∃ e, CountExpr.read text = .ok e) ↔
        ∀ part ∈ splitChar ',' text.toList, ∃ t : CountTerm, t.WrittenAs part) ∧
      (∀ fault, CountExpr.read text = .error fault → ∃ number, fault = .invalidNumber number) ∧
      ∀ e, CountExpr.read text = .ok e → e.ReadFrom text :=
  ⟨exists_read_iff, fun _ => invalidNumber_of_read, fun _ => readFrom_of_read⟩

/-- A condition with leading zeros, and with a range that no count lies in. -/
def padded : CountExpr :=
  ⟨.exactly 7, [.atLeast 10, .within 9 8]⟩

/-- It is read from a text with leading zeros, and the empty range does not make it hold. -/
theorem readsWhatIsWritten_padded :
    CountExpr.read "007,>=010,9..08" = .ok padded ∧ padded.ReadFrom "007,>=010,9..08" ∧
      padded.text = "7,>=10,9..8" ∧ padded.holds 8 = false ∧
      CountExpr.read "007,>=010,9...08" = .error (.invalidNumber ".08") := by
  have hread : CountExpr.read "007,>=010,9..08" = .ok padded := by decide +kernel
  exact ⟨hread, (readsWhatIsWritten _).2.2 _ hread, by decide +kernel, by decide +kernel,
    by decide +kernel⟩

end CountExpr

end Playback
