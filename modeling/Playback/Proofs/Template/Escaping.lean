import Playback.Proofs.Text.Cut
import Playback.Template

/-!
# Escaped arrows

An arrow is written with a backslash before it, and unescaping takes exactly these backslashes away
again, whatever else stands in the text. In an escaped text every arrow is behind a backslash, so
that no separator of source and action stands in it.
-/

namespace Playback.Template

open Text

/-- The text with `\->` for every `->`. -/
def escapeArrows : List Char → List Char
  | '-' :: '>' :: rest => '\\' :: '-' :: '>' :: escapeArrows rest
  | c :: rest => c :: escapeArrows rest
  | [] => []

/-! ## Escaping -/

theorem escapeArrows_arrow (rest : List Char) :
    escapeArrows ('-' :: '>' :: rest) = '\\' :: '-' :: '>' :: escapeArrows rest := rfl

theorem escapeArrows_cons {c : Char} {rest : List Char} (h : ¬ ['-', '>'] <+: c :: rest) :
    escapeArrows (c :: rest) = c :: escapeArrows rest := by
  rw [escapeArrows]
  rintro behind rfl rfl
  exact h ⟨behind, rfl⟩

/-- A text is escaped arrow by arrow, and character by character between them. -/
@[elab_as_elim]
theorem escape_induction {P : List Char → Prop} (nil : P [])
    (arrow : ∀ rest, P rest → P ('-' :: '>' :: rest))
    (cons : ∀ c rest, ¬ ['-', '>'] <+: c :: rest → P rest → P (c :: rest)) (cs : List Char) :
    P cs := by
  induction cs using escapeArrows.induct with
  | case1 rest ih => exact arrow rest ih
  | case2 c rest hne ih =>
    refine cons c rest ?_ ih
    rintro ⟨behind, hbehind⟩
    cases hbehind
    exact hne behind rfl rfl
  | case3 => exact nil

/-- Escaping adds backslashes only. -/
theorem not_mem_escapeArrows {c : Char} (hc : c ≠ '\\') {cs : List Char} (h : c ∉ cs) :
    c ∉ escapeArrows cs := by
  induction cs using escape_induction with
  | nil => exact h
  | arrow rest ih => simp_all [escapeArrows_arrow]
  | cons d rest harrow ih => simp_all [escapeArrows_cons harrow]

theorem escapeArrows_eq_nil_iff {cs : List Char} : escapeArrows cs = [] ↔ cs = [] := by
  cases cs using escape_induction with
  | nil => rfl
  | arrow rest => simp [escapeArrows_arrow]
  | cons c rest harrow => simp [escapeArrows_cons harrow]

/-- An escaped text starts with a backslash or as the text does. -/
theorem head?_escapeArrows {c : Char} (hc : c ≠ '\\') {cs : List Char}
    (h : [c] <+: escapeArrows cs) : [c] <+: cs := by
  cases cs using escape_induction with
  | nil => exact h
  | arrow rest => exact absurd (List.cons_prefix_cons.1 h).1 hc
  | cons d rest harrow =>
    rw [escapeArrows_cons harrow] at h
    exact List.cons_prefix_cons.2 ⟨(List.cons_prefix_cons.1 h).1, List.nil_prefix⟩

/-- No escaped text starts with an arrow. -/
theorem not_arrow_prefix_escapeArrows (cs : List Char) : ¬ ['-', '>'] <+: escapeArrows cs := by
  cases cs using escape_induction with
  | nil => simp [escapeArrows]
  | arrow rest => simp [escapeArrows_arrow]
  | cons c rest harrow =>
    rw [escapeArrows_cons harrow, List.cons_prefix_cons]
    rintro ⟨hc, hrest⟩
    exact harrow (List.cons_prefix_cons.2 ⟨hc, head?_escapeArrows (by decide) hrest⟩)

/-- Every arrow of an escaped text is behind a backslash. -/
theorem not_arrow_infix_escapeArrows {c : Char} (hc : c ≠ '\\') (cs : List Char) :
    ¬ [c, '-', '>'] <:+: escapeArrows cs := by
  induction cs using escape_induction with
  | nil => simp [escapeArrows]
  | arrow rest ih =>
    simp only [escapeArrows_arrow, List.infix_cons_iff, List.cons_prefix_cons, not_or]
    refine ⟨fun h => hc h.1, ?_, ?_, ih⟩
    · rintro ⟨-, h, -⟩
      exact absurd h (by decide)
    · exact fun h => not_arrow_prefix_escapeArrows rest h.2
  | cons d rest harrow ih =>
    rw [escapeArrows_cons harrow, List.infix_cons_iff, List.cons_prefix_cons, not_or]
    exact ⟨fun h => not_arrow_prefix_escapeArrows rest h.2, ih⟩

/-- Escaping puts no two characters together, unless a backslash or what follows one is among
them. -/
theorem pair_infix_of_escapeArrows {a b : Char} (ha : a ∉ ['\\', '-', '>']) (hb : b ≠ '\\')
    {cs : List Char} (h : [a, b] <:+: escapeArrows cs) : [a, b] <:+: cs := by
  simp only [List.mem_cons, List.not_mem_nil, or_false, not_or] at ha
  induction cs using escape_induction with
  | nil => exact h
  | arrow rest ih =>
    simp only [escapeArrows_arrow, List.infix_cons_iff, List.cons_prefix_cons, ha, false_and,
      false_or] at h
    exact List.infix_cons (List.infix_cons (ih h))
  | cons c rest harrow ih =>
    rw [escapeArrows_cons harrow, List.infix_cons_iff, List.cons_prefix_cons] at h
    rw [List.infix_cons_iff, List.cons_prefix_cons]
    exact h.imp (fun hstart => ⟨hstart.1, head?_escapeArrows hb hstart.2⟩) ih

/-! ## Unescaping -/

theorem unescapeArrows_cons {c : Char} {rest : List Char}
    (h : ¬ ['\\', '-', '>'] <+: c :: rest) :
    unescapeArrows (c :: rest) = c :: unescapeArrows rest := by
  rw [unescapeArrows]
  rintro behind rfl rfl
  exact h ⟨behind, rfl⟩

/-- What is escaped and unescaped again is the text. -/
theorem unescapeArrows_escapeArrows (cs : List Char) : unescapeArrows (escapeArrows cs) = cs := by
  induction cs using escape_induction with
  | nil => rfl
  | arrow rest ih => rw [escapeArrows_arrow, unescapeArrows, ih]
  | cons c rest harrow ih =>
    rw [escapeArrows_cons harrow, unescapeArrows_cons, ih]
    exact fun h => not_arrow_prefix_escapeArrows rest (List.cons_prefix_cons.1 h).2

/-- Two texts are unescaped one behind the other, unless an escaped arrow starts in the first and
ends in the second. -/
theorem unescapeArrows_append {cs : List Char} (hbackslash : ¬ ['\\'] <:+ cs)
    (hdash : ¬ ['\\', '-'] <:+ cs) (ds : List Char) :
    unescapeArrows (cs ++ ds) = unescapeArrows cs ++ unescapeArrows ds := by
  have hrest {c : Char} {rest suffix : List Char} (h : ¬ suffix <:+ c :: rest) :
      ¬ suffix <:+ rest := fun hs => h (List.suffix_cons_iff.2 (.inr hs))
  induction cs using unescapeArrows.induct with
  | case1 rest ih =>
    simp only [List.cons_append, unescapeArrows]
    rw [ih (hrest (hrest (hrest hbackslash))) (hrest (hrest (hrest hdash)))]
  | case2 c rest hne ih =>
    have hstay : ¬ ['\\', '-', '>'] <+: c :: rest := by
      rintro ⟨behind, hbehind⟩
      cases hbehind
      exact hne behind rfl rfl
    -- an escaped arrow across the seam has its backslash, or that and its dash, at the end of `cs`
    have hmeet : ¬ ['\\', '-', '>'] <+: c :: (rest ++ ds) := by
      intro hstart
      obtain ⟨rfl, harrow⟩ := List.cons_prefix_cons.1 hstart
      rcases rest with _ | ⟨d, _ | ⟨e, rest⟩⟩
      · exact hbackslash (List.suffix_refl _)
      · obtain ⟨rfl, -⟩ := List.cons_prefix_cons.1 harrow
        exact hdash (List.suffix_refl _)
      · refine hstay (List.cons_prefix_cons.2 ⟨rfl, ?_⟩)
        simpa using harrow
    rw [List.cons_append, unescapeArrows_cons hmeet, unescapeArrows_cons hstay, List.cons_append,
      ih (hrest hbackslash) (hrest hdash)]
  | case3 => rfl

end Playback.Template
