import Playback.Text.Blank
import Playback.Text.Digits

/-!
# What trimming leaves

Trimming takes blanks from both ends of a text and nothing else. A text that neither starts nor ends
with a blank is what trimming leaves of it between any blanks. The visible characters of ASCII are
not blank, and digits are among them.
-/

namespace Playback.Text

/-- The visible characters of ASCII are not blank. -/
theorem isBlank_of_visible {c : Char} (hlow : 32 < c.toNat) (hhigh : c.toNat < 127) :
    isBlank c = false := by
  simp only [isBlank, Bool.or_eq_false_iff, Bool.and_eq_false_iff, decide_eq_false_iff_not,
    beq_eq_false_iff_ne]
  omega

/-- Digits are not blank. -/
theorem isBlank_of_isDigit {c : Char} (h : isDigit c = true) : isBlank c = false := by
  obtain ⟨hlow, hhigh⟩ : '0' ≤ c ∧ c ≤ '9' := by simpa [isDigit] using h
  have h32 : 32 < c.toNat := Nat.lt_of_lt_of_le (by decide) hlow
  have h127 : c.toNat < 127 := Nat.lt_of_le_of_lt hhigh (by decide)
  exact isBlank_of_visible h32 h127

/-- A character that is there is not blank if it is one that is not. -/
theorem isBlank_of_mem {o : Option Char} (h : ∃ c, o = some c ∧ isBlank c = false) :
    ∀ c ∈ o, isBlank c = false := by
  obtain ⟨c, rfl, hc⟩ := h
  intro d hd
  rwa [← Option.mem_some_iff.1 hd]

/-- A text is what trimming leaves of it between blanks. -/
theorem exists_blanks (cs : List Char) :
    ∃ before behind, cs = before ++ trimChars cs ++ behind ∧
      (∀ c ∈ before, isBlank c = true) ∧ ∀ c ∈ behind, isBlank c = true := by
  let rest := cs.dropWhile isBlank
  refine ⟨cs.takeWhile isBlank, (rest.reverse.takeWhile isBlank).reverse, ?_, ?_, ?_⟩
  · have hrest : rest = dropEndBlanks rest ++ (rest.reverse.takeWhile isBlank).reverse := by
      rw [dropEndBlanks, ← List.reverse_append, List.takeWhile_append_dropWhile,
        List.reverse_reverse]
    rw [List.append_assoc, trimChars, ← hrest, List.takeWhile_append_dropWhile]
  · exact List.all_eq_true.1 List.all_takeWhile
  · exact fun c hc => List.all_eq_true.1 List.all_takeWhile c (List.mem_reverse.1 hc)

/-- Blanks go away from a text that does not start with one. -/
theorem dropWhile_append_of_blank {before core : List Char}
    (hbefore : ∀ c ∈ before, isBlank c = true)
    (hcore : ∀ c ∈ core.head?, isBlank c = false) : (before ++ core).dropWhile isBlank = core := by
  rw [List.dropWhile_append_of_pos hbefore]
  cases core with
  | nil => rfl
  | cons c core => rw [List.dropWhile_cons_of_neg (by simp [hcore c rfl])]

/-- A text that begins otherwise than with a blank, apart from some blanks, begins so apart from all
blanks. -/
theorem head?_dropWhile_isBlank {p : Char → Bool} (hp : ∀ c, p c = true → isBlank c = true)
    {cs : List Char} {c : Char} (hc : isBlank c = false)
    (h : (cs.dropWhile p).head? = some c) : (cs.dropWhile isBlank).head? = some c := by
  induction cs with
  | nil => cases h
  | cons d cs ih =>
    by_cases hd : p d = true
    · rw [List.dropWhile_cons_of_pos hd] at h
      rw [List.dropWhile_cons_of_pos (hp d hd)]
      exact ih h
    · rw [List.dropWhile_cons_of_neg hd] at h
      obtain rfl : d = c := Option.some.inj h
      rw [List.dropWhile_cons_of_neg (by simp [hc])]
      rfl

/-- A text that neither starts nor ends with a blank is left by trimming it between blanks. -/
theorem trimChars_append {before core behind : List Char} (hne : core ≠ [])
    (hbefore : ∀ c ∈ before, isBlank c = true) (hbehind : ∀ c ∈ behind, isBlank c = true)
    (hfirst : ∀ c ∈ core.head?, isBlank c = false)
    (hlast : ∀ c ∈ core.getLast?, isBlank c = false) :
    trimChars (before ++ core ++ behind) = core := by
  have hdrop : (before ++ core ++ behind).dropWhile isBlank = core ++ behind := by
    rw [List.append_assoc]
    refine dropWhile_append_of_blank hbefore ?_
    rwa [List.head?_append, List.head?_eq_some_head hne, Option.some_or,
      ← List.head?_eq_some_head hne]
  have hreverse : (behind.reverse ++ core.reverse).dropWhile isBlank = core.reverse := by
    refine dropWhile_append_of_blank (fun c hc => hbehind c (List.mem_reverse.1 hc)) ?_
    rwa [List.head?_reverse]
  rw [trimChars, hdrop, dropEndBlanks, List.reverse_append, hreverse, List.reverse_reverse]

theorem trimChars_eq_nil {cs : List Char} (h : ∀ c ∈ cs, isBlank c = true) : trimChars cs = [] := by
  have hdrop : (cs ++ []).dropWhile isBlank = [] := List.dropWhile_append_of_pos h
  rw [List.append_nil] at hdrop
  rw [trimChars, hdrop]
  rfl

/-- A blank at the end of a text is trimmed. -/
theorem trimChars_concat {c : Char} (h : isBlank c = true) (cs : List Char) :
    trimChars (cs ++ [c]) = trimChars cs := by
  rw [trimChars, trimChars, List.dropWhile_append]
  cases hdrop : cs.dropWhile isBlank with
  | nil => simp [h]
  | cons d ds => simp [dropEndBlanks, h]

end Playback.Text
