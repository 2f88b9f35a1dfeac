import Playback.Text.Cut

/-!
# What cutting finds

A cut names the text before the first occurrence and the text after it, and the parts of a split
text, joined again, are that text. Each reader of the language is inverted through these facts.
-/

namespace Playback.Text

/-- A text starts with another one exactly when something follows it. -/
theorem afterPrefix?_eq_some_iff {needle cs rest : List Char} :
    afterPrefix? needle cs = some rest ↔ cs = needle ++ rest := by
  induction needle generalizing cs with
  | nil => simp [afterPrefix?, eq_comm]
  | cons n ns ih =>
    cases cs with
    | nil => simp [afterPrefix?]
    | cons c cs =>
      by_cases hc : n = c
      · rw [afterPrefix?, if_pos hc, ih, hc, List.cons_append, List.cons_inj_right]
      · rw [afterPrefix?, if_neg hc]
        simp [eq_comm, hc]

@[simp] theorem afterPrefix?_append (needle rest : List Char) :
    afterPrefix? needle (needle ++ rest) = some rest :=
  afterPrefix?_eq_some_iff.2 rfl

/-- Nothing follows exactly when the text starts otherwise. -/
theorem afterPrefix?_eq_none_iff {needle cs : List Char} :
    afterPrefix? needle cs = none ↔ ¬ needle <+: cs := by
  rw [Option.eq_none_iff_forall_ne_some]
  constructor
  · rintro h ⟨rest, hrest⟩
    exact h rest (afterPrefix?_eq_some_iff.2 hrest.symm)
  · intro h rest hrest
    exact h ⟨rest, (afterPrefix?_eq_some_iff.1 hrest).symm⟩

/-- Nothing follows where already the first character is another one. -/
theorem afterPrefix?_of_head?_ne {c : Char} {cs : List Char} (h : cs.head? ≠ some c)
    (needle : List Char) : afterPrefix? (c :: needle) cs = none := by
  rw [afterPrefix?_eq_none_iff]
  rintro ⟨rest, rfl⟩
  exact h rfl

/-- The parts of a cut, with the needle between them, are the text. -/
theorem eq_of_cutAt? {needle cs before rest : List Char}
    (h : cutAt? needle cs = some (before, rest)) : cs = before ++ needle ++ rest := by
  induction cs generalizing before with
  | nil =>
    simp only [cutAt?, Option.ite_none_right_eq_some, List.isEmpty_iff, Option.some.injEq,
      Prod.mk.injEq] at h
    obtain ⟨rfl, rfl, rfl⟩ := h
    rfl
  | cons c cs ih =>
    rw [cutAt?] at h
    cases hp : afterPrefix? needle (c :: cs) with
    | some behind =>
      rw [hp] at h
      cases h
      exact afterPrefix?_eq_some_iff.1 hp
    | none =>
      rw [hp] at h
      obtain ⟨⟨b, r⟩, hcut, he⟩ := Option.map_eq_some_iff.1 h
      cases he
      rw [ih hcut]
      rfl

/-- A text is not cut exactly when the needle does not occur in it. -/
theorem cutAt?_eq_none_iff {needle cs : List Char} :
    cutAt? needle cs = none ↔ ¬ needle <:+: cs := by
  induction cs with
  | nil => simp [cutAt?]
  | cons c cs ih =>
    rw [cutAt?, List.infix_cons_iff, not_or, ← ih, ← afterPrefix?_eq_none_iff]
    cases afterPrefix? needle (c :: cs) <;> simp

/-- Occurring is standing somewhere inside. -/
theorem occursIn_iff {needle cs : List Char} : occursIn needle cs = true ↔ needle <:+: cs := by
  rw [occursIn, Option.isSome_iff_ne_none, ne_eq, cutAt?_eq_none_iff, Classical.not_not]

/-- The first occurrence of a needle is behind any text without its first character. -/
theorem cutAt?_append {d : Char} {needle before : List Char} (h : d ∉ before) (rest : List Char) :
    cutAt? (d :: needle) (before ++ (d :: needle ++ rest)) = some (before, rest) := by
  induction before with
  | nil => simp [cutAt?, afterPrefix?]
  | cons c before ih =>
    have hc : d ≠ c := fun he => h (he ▸ List.mem_cons_self)
    have hb : d ∉ before := fun hm => h (List.mem_cons_of_mem c hm)
    rw [List.cons_append, cutAt?, afterPrefix?, if_neg hc, ih hb]
    rfl

/-- A cut at one character is at its first occurrence. -/
theorem cutAt?_singleton_eq_some_iff {d : Char} {cs before rest : List Char} :
    cutAt? [d] cs = some (before, rest) ↔ cs = before ++ d :: rest ∧ d ∉ before := by
  constructor
  · intro h
    refine ⟨by simpa using eq_of_cutAt? h, ?_⟩
    induction cs generalizing before with
    | nil => simp [cutAt?] at h
    | cons c cs ih =>
      by_cases hc : d = c
      · simp only [cutAt?, afterPrefix?, if_pos hc] at h
        cases h
        exact List.not_mem_nil
      · simp only [cutAt?, afterPrefix?, if_neg hc] at h
        obtain ⟨⟨b, r⟩, hcut, he⟩ := Option.map_eq_some_iff.1 h
        cases he
        rw [List.mem_cons, not_or]
        exact ⟨hc, ih hcut⟩
  · rintro ⟨rfl, hb⟩
    exact cutAt?_append hb rest

/-- Two characters stand one behind the other in a joined text when they do in a part of it, or
where the parts meet. -/
theorem pair_infix_append_iff {a b : Char} {cs ds : List Char} :
    [a, b] <:+: cs ++ ds ↔ [a, b] <:+: cs ∨ [a, b] <:+: ds ∨ [a] <:+ cs ∧ [b] <+: ds := by
  rw [List.infix_append_iff_ne_nil]
  refine or_congr_right (or_congr_right ⟨?_, ?_⟩)
  · rintro ⟨first, second, hfirst, hsecond, heq, hsuffix, hstart⟩
    obtain ⟨rfl, rfl⟩ : first = [a] ∧ second = [b] := by
      rcases first with _ | ⟨c, _ | ⟨d, first⟩⟩ <;> simp_all
    exact ⟨hsuffix, hstart⟩
  · rintro ⟨hsuffix, hstart⟩
    exact ⟨[a], [b], List.cons_ne_nil _ _, List.cons_ne_nil _ _, rfl, hsuffix, hstart⟩

/-- A cut at two characters is at their first occurrence. -/
theorem cutAt?_pair_eq_some_iff {a b : Char} (hab : a ≠ b) {cs before rest : List Char} :
    cutAt? [a, b] cs = some (before, rest) ↔
      cs = before ++ a :: b :: rest ∧ ¬ [a, b] <:+: before := by
  constructor
  · intro h
    refine ⟨by simpa using eq_of_cutAt? h, ?_⟩
    induction cs generalizing before with
    | nil => simp [cutAt?] at h
    | cons c cs ih =>
      rw [cutAt?] at h
      cases hp : afterPrefix? [a, b] (c :: cs) with
      | some behind =>
        rw [hp] at h
        cases h
        simp
      | none =>
        rw [hp] at h
        obtain ⟨⟨front, r⟩, hcut, he⟩ := Option.map_eq_some_iff.1 h
        cases he
        rw [List.infix_cons_iff, not_or]
        refine ⟨fun hstart => afterPrefix?_eq_none_iff.1 hp ?_, ih hcut⟩
        rw [eq_of_cutAt? hcut, List.append_assoc, ← List.cons_append]
        exact hstart.trans (List.prefix_append _ _)
  · rintro ⟨rfl, hfirst⟩
    induction before with
    | nil => simp [cutAt?, afterPrefix?]
    | cons c before ih =>
      rw [List.infix_cons_iff, not_or] at hfirst
      have hp : afterPrefix? [a, b] (c :: (before ++ a :: b :: rest)) = none := by
        rw [afterPrefix?_eq_none_iff]
        intro hstart
        rw [List.cons_prefix_cons] at hstart hfirst
        cases before with
        | nil => exact hab (List.cons_prefix_cons.1 hstart.2).1.symm
        | cons d before =>
          obtain ⟨hb, -⟩ := List.cons_prefix_cons.1 hstart.2
          exact hfirst.1 ⟨hstart.1, List.cons_prefix_cons.2 ⟨hb, List.nil_prefix⟩⟩
      rw [List.cons_append, cutAt?, hp]
      dsimp only
      rw [ih hfirst.2]
      rfl

/-- A text without the two characters, which does not end in the first of them, belongs to the part
before the cut of what follows it. -/
theorem cutAt?_pair_append {a b : Char} (hab : a ≠ b) {cs : List Char} (h : ¬ [a, b] <:+: cs)
    (hend : ¬ [a] <:+ cs) (ds : List Char) :
    cutAt? [a, b] (cs ++ ds) = (cutAt? [a, b] ds).map (Prod.map (cs ++ ·) id) := by
  cases hcut : cutAt? [a, b] ds with
  | none =>
    rw [cutAt?_eq_none_iff] at hcut
    rw [Option.map_none, cutAt?_eq_none_iff, pair_infix_append_iff]
    exact not_or.2 ⟨h, not_or.2 ⟨hcut, fun hmeet => hend hmeet.1⟩⟩
  | some found =>
    obtain ⟨before, rest⟩ := found
    obtain ⟨rfl, hbefore⟩ := (cutAt?_pair_eq_some_iff hab).1 hcut
    rw [Option.map_some, Prod.map_apply, cutAt?_pair_eq_some_iff hab, pair_infix_append_iff]
    refine ⟨(List.append_assoc _ _ _).symm, ?_⟩
    exact not_or.2 ⟨h, not_or.2 ⟨hbefore, fun hmeet => hend hmeet.1⟩⟩

/-- A cut at two characters stays at its place when more text follows. -/
theorem cutAt?_pair_append_of_eq_some {a b : Char} (hab : a ≠ b) {cs before rest : List Char}
    (h : cutAt? [a, b] cs = some (before, rest)) (more : List Char) :
    cutAt? [a, b] (cs ++ more) = some (before, rest ++ more) := by
  obtain ⟨rfl, hfirst⟩ := (cutAt?_pair_eq_some_iff hab).1 h
  rw [cutAt?_pair_eq_some_iff hab]
  exact ⟨by rw [List.append_assoc, List.cons_append, List.cons_append], hfirst⟩

theorem splitChar_cons_of_ne {c d : Char} (hc : c ≠ d) {cs first : List Char}
    {others : List (List Char)} (h : splitChar d cs = first :: others) :
    splitChar d (c :: cs) = (c :: first) :: others := by
  rw [splitChar] at h
  rw [splitChar, splitWhere, h, if_neg (by simpa using hc)]

theorem splitChar_cons_self (d : Char) (cs : List Char) :
    splitChar d (d :: cs) = [] :: splitChar d cs := by
  rw [splitChar, splitWhere, if_pos (beq_iff_eq.2 rfl), ← splitChar]

/-- The parts of a split text are there, and none of them has the character. -/
theorem splitChar_parts (d : Char) (cs : List Char) :
    ∃ first others, splitChar d cs = first :: others ∧
      cs = first ++ others.flatMap (d :: ·) ∧ ∀ part ∈ first :: others, d ∉ part := by
  induction cs with
  | nil => exact ⟨[], [], rfl, rfl, by simp⟩
  | cons c cs ih =>
    obtain ⟨first, others, hsplit, hjoin, hparts⟩ := ih
    by_cases hc : c = d
    · refine ⟨[], first :: others, ?_, ?_, ?_⟩
      · rw [hc, splitChar_cons_self, hsplit]
      · rw [hjoin, hc]
        rfl
      · simpa using hparts
    · refine ⟨c :: first, others, splitChar_cons_of_ne hc hsplit, ?_, ?_⟩
      · rw [hjoin]
        rfl
      · rw [List.forall_mem_cons] at hparts ⊢
        refine ⟨?_, hparts.2⟩
        rw [List.mem_cons, not_or]
        exact ⟨fun he => hc he.symm, hparts.1⟩

/-- A text without the character is its only part. -/
theorem splitChar_eq_singleton {d : Char} {cs : List Char} (h : d ∉ cs) :
    splitChar d cs = [cs] := by
  induction cs with
  | nil => rfl
  | cons c cs ih =>
    have hc : c ≠ d := fun he => h (he ▸ List.mem_cons_self)
    have hrest := ih fun hm => h (List.mem_cons_of_mem c hm)
    exact splitChar_cons_of_ne hc hrest

/-- The part before the first occurrence of the character is the first part. -/
theorem splitChar_append_cons {d : Char} {part : List Char} (h : d ∉ part) (rest : List Char) :
    splitChar d (part ++ d :: rest) = part :: splitChar d rest := by
  induction part with
  | nil => exact splitChar_cons_self d rest
  | cons c part ih =>
    have hc : c ≠ d := fun he => h (he ▸ List.mem_cons_self)
    have hrest := ih fun hm => h (List.mem_cons_of_mem c hm)
    rw [List.cons_append]
    exact splitChar_cons_of_ne hc hrest

/-- Parts without the character, joined by it, are the parts of the joined text. -/
theorem splitChar_join {d : Char} {first : List Char} {others : List (List Char)}
    (h : ∀ part ∈ first :: others, d ∉ part) :
    splitChar d (first ++ others.flatMap (d :: ·)) = first :: others := by
  induction others generalizing first with
  | nil => simpa using splitChar_eq_singleton (h first List.mem_cons_self)
  | cons second others ih =>
    have hfirst := h first List.mem_cons_self
    have hothers := ih fun part hp => h part (List.mem_cons_of_mem first hp)
    rw [List.flatMap_cons, List.cons_append, splitChar_append_cons hfirst, hothers]

/-- A line feed ends a line, which loses a carriage return at its end, before the other lines. -/
theorem lines_append_cons {row : List Char} (h : '\n' ∉ row) (rest : List Char) :
    lines (row ++ '\n' :: rest) =
      (if row.getLast? = some '\r' then row.dropLast else row) :: lines rest := by
  obtain ⟨first, others, hsplit, -, -⟩ := splitChar_parts '\n' rest
  simp only [lines, splitChar_append_cons h, hsplit, List.dropLast_cons_cons, List.map_cons,
    List.getLast?_cons_cons]
  cases (first :: others).getLast? with
  | none => rfl
  | some last => cases last <;> rfl

/-- A text without line feeds is one line, unless it is empty. -/
theorem lines_eq_singleton {row : List Char} (h : '\n' ∉ row) (hne : row ≠ []) :
    lines row = [row] := by
  obtain ⟨c, row, rfl⟩ := List.exists_cons_of_ne_nil hne
  rw [lines, splitChar_eq_singleton h]
  rfl

end Playback.Text
