import Mathlib.Data.List.Chain
import Playback.Proofs.Template.Quotes
import Playback.Proofs.Template.Segments

/-!
# Templates that are written out

Segments are written out as a template: texts and quoted texts with their arrows escaped, names
behind the sign of their scope, and bars between alternatives. Reading the template gives the
segments back, because bars and closing braces stand in an alternative in quotes only, and no text
has an opening mark.
-/

namespace Playback

open Text
open Template (escapeArrows unescapeArrows opening)

/-! ## Writing -/

/-- An alternative as it is written. -/
def Alternative.chars : Alternative → List Char
  | .literal text => '\'' :: (escapeArrows text.toList ++ ['\''])
  | .lookup scope name => (scope.map Scope.sign).getD [] ++ name.toList

/-- A segment as it is written. -/
def Segment.chars : Segment → List Char
  | .text t => escapeArrows t.toList
  | .placeholder alternatives =>
    opening ++ ['|'].intercalate (alternatives.map Alternative.chars) ++ ['}']

/-- The template that is written for segments. -/
def Template.ofSegments (segments : List Segment) : Template :=
  ⟨String.ofList (segments.flatMap Segment.chars)⟩

/-- A name that can stand in a placeholder. -/
def IsLookupName (cs : List Char) : Prop :=
  '\'' ∉ cs ∧ '|' ∉ cs ∧ '}' ∉ cs

/-- A quoted text has no quotes. A name can stand in a placeholder, and its scope, if it has one,
has a sign; without a scope the name is not empty and does not start with a sign. -/
def Alternative.WellFormed : Alternative → Prop
  | .literal text => '\'' ∉ text.toList
  | .lookup none name =>
    IsLookupName name.toList ∧ name ≠ "" ∧ ¬ ['&'] <+: name.toList ∧ ¬ ['%'] <+: name.toList
  | .lookup (some scope) name => IsLookupName name.toList ∧ scope ≠ .local

/-- A text is not empty and has no opening mark, and the alternatives of a placeholder are
well-formed. -/
def Segment.WellFormed : Segment → Prop
  | .text t => t ≠ "" ∧ ¬ opening <:+: t.toList
  | .placeholder alternatives => ∀ a ∈ alternatives, a.WellFormed

instance (cs : List Char) : Decidable (IsLookupName cs) :=
  inferInstanceAs (Decidable (_ ∧ _))

instance : (a : Alternative) → Decidable a.WellFormed
  | .literal _ => inferInstanceAs (Decidable (_ ∉ _))
  | .lookup none _ => inferInstanceAs (Decidable (_ ∧ _))
  | .lookup (some _) _ => inferInstanceAs (Decidable (_ ∧ _))

instance : (s : Segment) → Decidable s.WellFormed
  | .text _ => inferInstanceAs (Decidable (_ ∧ _))
  | .placeholder _ => inferInstanceAs (Decidable (∀ a ∈ _, _))

/-- Whether a segment is text. -/
def Segment.isText : Segment → Bool
  | .text _ => true
  | .placeholder _ => false

/-- Segments that can be told apart once they are written. -/
structure Segment.AllWellFormed (segments : List Segment) : Prop where
  /-- Each of them is well-formed. -/
  each : ∀ s ∈ segments, s.WellFormed
  /-- A text is not followed by another one. -/
  apart : segments.IsChain fun s t => s.isText = false ∨ t.isText = false

namespace Template

/-! ## Alternatives -/

/-- An unquoted text is no literal. -/
theorem unquote?_eq_none {cs : List Char} (h : '\'' ∉ cs) : unquote? cs = none := by
  rw [unquote?]
  rintro rest rfl
  exact h List.mem_cons_self

/-- A well-formed alternative is read back. -/
theorem readAlternative_chars {a : Alternative} (h : a.WellFormed) :
    readAlternative a.chars = a := by
  match a, h with
  | .literal text, _ =>
    simp [readAlternative, Alternative.chars, unquote?, unescapeArrows_escapeArrows]
  | .lookup none name, ⟨⟨hquote, _⟩, _, hchapter, hbounds⟩ =>
    change readAlternative name.toList = _
    rw [readAlternative, unquote?_eq_none hquote]
    · dsimp only
      rw [String.ofList_toList]
    · intro rest hrest
      exact hchapter ⟨rest, hrest.symm⟩
    · intro rest hrest
      exact hbounds ⟨rest, hrest.symm⟩
  | .lookup (some .local) name, ⟨_, hscope⟩ => exact absurd rfl hscope
  | .lookup (some .chapter) name, ⟨⟨hquote, _⟩, _⟩ =>
    change readAlternative ('&' :: name.toList) = _
    rw [readAlternative, unquote?_eq_none (by simpa using hquote)]
    dsimp only
    rw [String.ofList_toList]
  | .lookup (some .testBounds) name, ⟨⟨hquote, _⟩, _⟩ =>
    change readAlternative ('%' :: name.toList) = _
    rw [readAlternative, unquote?_eq_none (by simpa using hquote)]
    dsimp only
    rw [String.ofList_toList]

/-- In a well-formed alternative bars and closing braces stand in quotes only. -/
theorem onlyQuoted_chars {a : Alternative} (h : a.WellFormed) {d : Char}
    (hd : d = '|' ∨ d = '}') : OnlyQuoted d a.chars := by
  have hname {name : List Char} (hn : IsLookupName name) : OnlyQuoted d name := by
    obtain ⟨hquote, hbar, hbrace⟩ := hn
    rcases hd with rfl | rfl
    · exact .of_notMem hquote hbar
    · exact .of_notMem hquote hbrace
  have hsign {c : Char} (hc : c = '&' ∨ c = '%') {name : List Char} (hn : IsLookupName name) :
      OnlyQuoted d (c :: name) := by
    refine .plain ?_ ?_ (hname hn)
    · rcases hc with rfl | rfl <;> decide
    · rcases hc with rfl | rfl <;> rcases hd with rfl | rfl <;> decide
  match a, h with
  | .literal text, hquote => exact .quoted (not_mem_escapeArrows (by decide) hquote) .nil
  | .lookup none name, ⟨hn, _⟩ => exact hname hn
  | .lookup (some .local) name, ⟨_, hscope⟩ => exact absurd rfl hscope
  | .lookup (some .chapter) name, ⟨hn, _⟩ => exact hsign (.inl rfl) hn
  | .lookup (some .testBounds) name, ⟨hn, _⟩ => exact hsign (.inr rfl) hn

/-- A well-formed alternative is not written by nothing. -/
theorem chars_ne_nil {a : Alternative} (h : a.WellFormed) : a.chars ≠ [] := by
  match a, h with
  | .literal text, _ => exact List.cons_ne_nil _ _
  | .lookup none name, ⟨_, hne, _⟩ => exact fun hnil => hne (String.toList_eq_nil_iff.1 hnil)
  | .lookup (some .local) name, ⟨_, hscope⟩ => exact absurd rfl hscope
  | .lookup (some .chapter) name, _ => exact List.cons_ne_nil _ _
  | .lookup (some .testBounds) name, _ => exact List.cons_ne_nil _ _

/-- Well-formed alternatives between bars are read back. -/
theorem readAlternatives_intercalate {alternatives : List Alternative}
    (h : ∀ a ∈ alternatives, a.WellFormed) :
    readAlternatives (['|'].intercalate (alternatives.map Alternative.chars)) = alternatives := by
  cases alternatives with
  | nil => rfl
  | cons first others =>
    have hparts : ∀ part ∈ (first :: others).map Alternative.chars, OnlyQuoted '|' part := by
      intro part hp
      obtain ⟨a, ha, rfl⟩ := List.mem_map.1 hp
      exact onlyQuoted_chars (h a ha) (.inl rfl)
    have hfilter : ((first :: others).map Alternative.chars).filter (!·.isEmpty) =
        (first :: others).map Alternative.chars := by
      rw [List.filter_eq_self]
      intro part hp
      obtain ⟨a, ha, rfl⟩ := List.mem_map.1 hp
      simpa using chars_ne_nil (h a ha)
    have hread (a : Alternative) (ha : a ∈ first :: others) : readAlternative a.chars = a :=
      readAlternative_chars (h a ha)
    have hne : (first :: others).map Alternative.chars ≠ [] := List.cons_ne_nil _ _
    rw [readAlternatives, splitBars_intercalate hne hparts, hfilter, List.map_map]
    exact (List.map_congr_left hread).trans (List.map_id _)

/-- Joined by bars, too, well-formed alternatives have closing braces in quotes only. -/
theorem onlyQuoted_intercalate {alternatives : List Alternative}
    (h : ∀ a ∈ alternatives, a.WellFormed) :
    OnlyQuoted '}' (['|'].intercalate (alternatives.map Alternative.chars)) := by
  induction alternatives with
  | nil => exact .nil
  | cons first others ih =>
    have hfirst := onlyQuoted_chars (h first List.mem_cons_self) (.inr rfl)
    have hothers := ih fun a ha => h a (List.mem_cons_of_mem first ha)
    cases others with
    | nil =>
      rw [List.map_singleton, List.intercalate_singleton]
      exact hfirst
    | cons second others =>
      rw [List.map_cons, List.map_cons, List.intercalate_cons_cons, List.append_assoc]
      exact hfirst.append (.plain (by decide) (by decide) hothers)

/-! ## Segments -/

/-- A well-formed text is one segment. -/
theorem textSegment_escapeArrows {t : String} (h : t ≠ "") :
    textSegment (escapeArrows t.toList) = [.text t] := by
  have hne : escapeArrows t.toList ≠ [] :=
    fun hnil => h (String.toList_eq_nil_iff.1 (escapeArrows_eq_nil_iff.1 hnil))
  rw [textSegment, if_neg (by simpa using hne), unescapeArrows_escapeArrows, String.ofList_toList]

/-- Well-formed segments are read back, behind a text that is their first segment or nothing. -/
theorem readSegments_chars {segments : List Segment} (h : Segment.AllWellFormed segments)
    {before : List Char} (hbefore : ¬ opening <:+: before)
    (hfirst : before = [] ∨ ∀ s ∈ segments.head?, s.isText = false) :
    readSegments [] (before ++ segments.flatMap Segment.chars) =
      textSegment before ++ segments := by
  induction segments generalizing before with
  | nil =>
    rw [List.flatMap_nil, List.append_nil, List.append_nil]
    exact readSegments_of_plain hbefore
  | cons s segments ih =>
    have hrest : Segment.AllWellFormed segments :=
      ⟨fun t ht => h.each t (List.mem_cons_of_mem s ht), h.apart.tail⟩
    cases s with
    | text t =>
      obtain rfl : before = [] := hfirst.resolve_right fun hf => by
        simpa [Segment.isText] using hf (.text t) rfl
      obtain ⟨hne, hplain⟩ := h.each _ List.mem_cons_self
      have hescaped : ¬ opening <:+: escapeArrows t.toList :=
        fun hopen => hplain (pair_infix_of_escapeArrows (by decide) (by decide) hopen)
      have hnext : ∀ s ∈ segments.head?, s.isText = false := by
        intro s hs
        exact (h.apart.rel_head? hs).resolve_left (by simp [Segment.isText])
      have htail := ih hrest hescaped (.inr hnext)
      rw [textSegment_escapeArrows hne] at htail
      exact htail
    | placeholder alternatives =>
      have halternatives : ∀ a ∈ alternatives, a.WellFormed := h.each _ List.mem_cons_self
      have hnothing : ¬ opening <:+: [] := by decide
      have htail := ih hrest hnothing (.inl rfl)
      obtain ⟨inner, hinner⟩ :
        ∃ inner, inner = ['|'].intercalate (alternatives.map Alternative.chars) := ⟨_, rfl⟩
      have hchars : before ++ (Segment.placeholder alternatives :: segments).flatMap Segment.chars =
          before ++ '@' :: '{' :: (inner ++ '}' :: segments.flatMap Segment.chars) := by
        simp [Segment.chars, opening, hinner]
      have hcut := (cutAt?_pair_eq_some_iff (by decide)).2 ⟨hchars, hbefore⟩
      have hclose := closeAt?_of_onlyQuoted (hinner ▸ onlyQuoted_intercalate halternatives)
        (segments.flatMap Segment.chars)
      rw [readSegments_of_closed hcut hclose, hinner, readAlternatives_intercalate halternatives]
      exact congrArg _ (congrArg _ htail)

/-- Reading the template that is written for well-formed segments gives exactly these segments. -/
theorem segments_ofSegments {segments : List Segment} (h : Segment.AllWellFormed segments) :
    (ofSegments segments).segments = segments := by
  have hnothing : ¬ opening <:+: [] := by decide
  have hread := readSegments_chars h hnothing (.inl rfl)
  rw [Template.segments, ofSegments, String.toList_ofList]
  exact hread

/-- Texts that end in half an opening mark and start with the other half, a quoted text with a bar,
a brace and an arrow, a nameless lookup, a name with an opening mark, and a placeholder without
alternatives. -/
def Segment.crowded : List Segment := [
  .text "\\->@",
  .placeholder [.literal "|\x7d->\\", .literal "", .lookup (some .testBounds) "",
    .lookup none "a@\x7b&"],
  .placeholder [],
  .text "\x7b-"]

/-- These segments are read back. -/
theorem segments_ofSegments_crowded :
    Segment.AllWellFormed Segment.crowded ∧
      ofSegments Segment.crowded =
        ⟨"\\\\->@@\x7b'|\x7d\\->\\'|''|%|a@\x7b&\x7d@\x7b\x7d\x7b-"⟩ ∧
      (ofSegments Segment.crowded).segments = Segment.crowded := by
  have hwellFormed : Segment.AllWellFormed Segment.crowded :=
    ⟨by decide +kernel, by decide +kernel⟩
  exact ⟨hwellFormed, by decide +kernel, segments_ofSegments hwellFormed⟩

end Template

end Playback
