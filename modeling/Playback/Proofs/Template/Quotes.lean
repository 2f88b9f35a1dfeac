import Playback.Template

/-!
# Quotes in placeholders

A placeholder ends at its first closing brace outside of quotes, and its alternatives end at the
bars outside of quotes. Both scanners are one cut at a character outside of quotes, and pass any
text in which every quote is closed and this character stands in quotes only.
-/

namespace Playback

/-! ## Quoted characters -/

/-- A text in which every quote is closed and a character stands in quotes only. -/
inductive OnlyQuoted (d : Char) : List Char → Prop where
  /-- The empty text. -/
  | nil : OnlyQuoted d []
  /-- Another character, and no quote. -/
  | plain {c : Char} {cs : List Char} (hquote : c ≠ '\'') (hc : c ≠ d) (h : OnlyQuoted d cs) :
    OnlyQuoted d (c :: cs)
  /-- A text in quotes. -/
  | quoted {inner cs : List Char} (hinner : '\'' ∉ inner) (h : OnlyQuoted d cs) :
    OnlyQuoted d ('\'' :: (inner ++ '\'' :: cs))

namespace OnlyQuoted

variable {d : Char} {cs : List Char}

/-- A text without quotes and without the character. -/
theorem of_notMem (hquote : '\'' ∉ cs) (hd : d ∉ cs) : OnlyQuoted d cs := by
  induction cs with
  | nil => exact .nil
  | cons c cs ih =>
    rw [List.mem_cons, not_or] at hquote hd
    exact .plain (Ne.symm hquote.1) (Ne.symm hd.1) (ih hquote.2 hd.2)

/-- One such text behind the other. -/
theorem append {ds : List Char} (h : OnlyQuoted d cs) (hds : OnlyQuoted d ds) :
    OnlyQuoted d (cs ++ ds) := by
  induction h with
  | nil => exact hds
  | plain hquote hc _ ih => exact .plain hquote hc ih
  | quoted hinner _ ih =>
    rw [List.cons_append, List.append_assoc, List.cons_append]
    exact .quoted hinner ih

end OnlyQuoted

namespace Template

/-! ## Scanning -/

/-- The texts before and after the first occurrence of a character outside of quotes. -/
def cutOutside? (d : Char) (quoted : Bool) : List Char → Option (List Char × List Char)
  | [] => none
  | c :: rest =>
    if c = d ∧ quoted = false then some ([], rest)
    else
      (cutOutside? d (quoted != (c == '\'')) rest).map fun (before, behind) => (c :: before, behind)

/-- A placeholder ends at its first closing brace outside of quotes. -/
theorem closeAt?_eq (quoted : Bool) (cs : List Char) :
    closeAt? quoted cs = cutOutside? '}' quoted cs := by
  induction cs generalizing quoted with
  | nil => rfl
  | cons c cs ih => rw [closeAt?, cutOutside?, ih]

/-- The first part of a placeholder ends at the first bar outside of quotes. -/
theorem splitBars_eq (quoted : Bool) (cs : List Char) :
    splitBars quoted cs =
      match cutOutside? '|' quoted cs with
      | none => [cs]
      | some (part, rest) => part :: splitBars false rest := by
  induction cs generalizing quoted with
  | nil => rfl
  | cons c cs ih =>
    rw [splitBars, cutOutside?]
    split
    · rename_i hbar
      rw [hbar.2]
    · rw [ih]
      cases cutOutside? '|' (quoted != (c == '\'')) cs <;> rfl

/-- A character that is another one, or is quoted, is passed. -/
theorem cutOutside?_cons {d c : Char} {quoted next : Bool} (h : c ≠ d ∨ quoted = true)
    (hnext : (quoted != (c == '\'')) = next) (rest : List Char) :
    cutOutside? d quoted (c :: rest) =
      (cutOutside? d next rest).map fun (before, behind) => (c :: before, behind) := by
  have hpass : ¬ (c = d ∧ quoted = false) := by
    rintro ⟨hc, hquoted⟩
    simp [hc, hquoted] at h
  rw [cutOutside?, if_neg hpass, hnext]

/-- Text in quotes is passed. -/
theorem cutOutside?_quoted (d : Char) {inner : List Char} (h : '\'' ∉ inner) (rest : List Char) :
    cutOutside? d true (inner ++ '\'' :: rest) =
      (cutOutside? d false rest).map fun (before, behind) =>
        (inner ++ '\'' :: before, behind) := by
  induction inner with
  | nil => exact cutOutside?_cons (.inr rfl) rfl rest
  | cons c inner ih =>
    rw [List.mem_cons, not_or] at h
    have hnext : (true != (c == '\'')) = true := by simpa using Ne.symm h.1
    rw [List.cons_append, cutOutside?_cons (.inr rfl) hnext, ih h.2, Option.map_map]
    rfl

/-- Text with the character in quotes only is passed. -/
theorem cutOutside?_append {d : Char} (hd : d ≠ '\'') {cs : List Char} (h : OnlyQuoted d cs)
    (rest : List Char) :
    cutOutside? d false (cs ++ rest) =
      (cutOutside? d false rest).map fun (before, behind) => (cs ++ before, behind) := by
  induction h with
  | nil => exact Option.map_id'.symm
  | @plain c cs hquote hc _ ih =>
    have hnext : (false != (c == '\'')) = false := by simpa using hquote
    rw [List.cons_append, cutOutside?_cons (.inl hc) hnext, ih, Option.map_map]
    rfl
  | @quoted inner cs hinner _ ih =>
    have hnext : (false != ('\'' == '\'')) = true := rfl
    rw [List.cons_append, List.append_assoc, List.cons_append,
      cutOutside?_cons (.inl hd.symm) hnext, cutOutside?_quoted d hinner, ih, Option.map_map,
      Option.map_map]
    simp [Function.comp_def]

/-- Text with closing braces in quotes only stands in a placeholder up to the next one. -/
theorem closeAt?_of_onlyQuoted {inner : List Char} (h : OnlyQuoted '}' inner)
    (behind : List Char) : closeAt? false (inner ++ '}' :: behind) = some (inner, behind) := by
  rw [closeAt?_eq, cutOutside?_append (by decide) h]
  simp [cutOutside?]

/-- Parts with bars in quotes only, joined by bars, are the parts of the joined text. -/
theorem splitBars_intercalate {parts : List (List Char)} (hne : parts ≠ [])
    (h : ∀ part ∈ parts, OnlyQuoted '|' part) :
    splitBars false (['|'].intercalate parts) = parts := by
  induction parts with
  | nil => exact absurd rfl hne
  | cons first others ih =>
    have hfirst := cutOutside?_append (by decide) (h first List.mem_cons_self)
    cases others with
    | nil =>
      have hall := hfirst []
      rw [List.append_nil] at hall
      rw [List.intercalate_singleton, splitBars_eq, hall]
      rfl
    | cons second others =>
      have hothers := ih (List.cons_ne_nil _ _) fun part hpart =>
        h part (List.mem_cons_of_mem first hpart)
      rw [List.intercalate_cons_cons, List.append_assoc, List.singleton_append, splitBars_eq,
        hfirst]
      simp [cutOutside?, hothers]

/-! ## Closed placeholders -/

/-- A placeholder, its closing brace and what follows are the text. -/
theorem eq_of_closeAt? {quoted : Bool} {cs inner behind : List Char}
    (h : closeAt? quoted cs = some (inner, behind)) : cs = inner ++ '}' :: behind := by
  induction cs generalizing quoted inner with
  | nil => cases h
  | cons c cs ih =>
    rw [closeAt?] at h
    split at h
    · rename_i hc
      cases h
      rw [hc.1]
      rfl
    · obtain ⟨⟨i, b⟩, hclose, he⟩ := Option.map_eq_some_iff.1 h
      cases he
      rw [ih hclose]
      rfl

/-- A placeholder stays closed when more text follows. -/
theorem closeAt?_append_of_eq_some {quoted : Bool} {cs inner behind : List Char}
    (h : closeAt? quoted cs = some (inner, behind)) (more : List Char) :
    closeAt? quoted (cs ++ more) = some (inner, behind ++ more) := by
  induction cs generalizing quoted inner with
  | nil => cases h
  | cons c cs ih =>
    rw [closeAt?] at h
    rw [List.cons_append, closeAt?]
    split at h
    · rename_i hc
      cases h
      rw [if_pos hc]
    · rename_i hc
      obtain ⟨⟨i, b⟩, hclose, he⟩ := Option.map_eq_some_iff.1 h
      cases he
      rw [if_neg hc, ih hclose]
      rfl

end Template

end Playback
