import Playback.Proofs.Command.ReadBack
import Playback.Proofs.Text.Blank

/-!
# The ends of command lines

A command line starts with the sign of a gate, of a scope or of an outward search, or with the word
for its source. It ends with a word, a bracket, a name, a sign or an index. None of these characters
is blank, so trimming leaves the line as it is, and no line starts with a brace.
-/

namespace Playback

open Text Layout

/-! ## Characters that are not blank -/

/-- Name characters are not blank. -/
theorem isBlank_of_isNameChar {c : Char} (h : isNameChar c = true) : isBlank c = false := by
  have halpha : c.isAlpha = (c.isUpper || c.isLower) := rfl
  have hupper : c.isUpper = decide (c.val ≥ 65 ∧ c.val ≤ 90) := rfl
  have hlower : c.isLower = (decide (c.val ≥ 97) && decide (c.val ≤ 122)) := rfl
  simp only [isNameChar, Char.isAlphanum, halpha, hupper, hlower, Char.isDigit, Bool.or_eq_true,
    Bool.and_eq_true, decide_eq_true_eq, beq_iff_eq, ge_iff_le, UInt32.le_iff_toNat_le] at h
  have hbounds : 32 < c.toNat ∧ c.toNat < 127 := by
    rcases h with ((((h | h) | h) | rfl) | rfl) | rfl
    · exact ⟨Nat.lt_of_lt_of_le (by decide) h.1, Nat.lt_of_le_of_lt h.2 (by decide)⟩
    · exact ⟨Nat.lt_of_lt_of_le (by decide) h.1, Nat.lt_of_le_of_lt h.2 (by decide)⟩
    · exact ⟨Nat.lt_of_lt_of_le (by decide) h.1, Nat.lt_of_le_of_lt h.2 (by decide)⟩
    all_goals decide
  exact isBlank_of_visible hbounds.1 hbounds.2

/-! ## The first character -/

/-- The characters that a command line can start with. -/
def firstChars : List Char :=
  ['~', '?', '!', 'r', '&', '%', '^', 'v', 'u']

/-- A source starts with one of these characters. -/
theorem exists_head?_source (source : SourceShape) :
    ∃ c ∈ firstChars, source.layout.chars.head? = some c := by
  cases source with
  | exchange side part body =>
    refine ⟨'r', by decide, ?_⟩
    cases side <;> simp [SourceShape.layout]
  | «variable» scope up name body =>
    cases scope with
    | «local» =>
      cases up with
      | true => exact ⟨'^', by decide, by simp [SourceShape.layout, Scope.layout]⟩
      | false => exact ⟨'v', by decide, by simp [SourceShape.layout, Scope.layout]⟩
    | chapter => exact ⟨'&', by decide, by simp [SourceShape.layout, Scope.layout]⟩
    | testBounds => exact ⟨'%', by decide, by simp [SourceShape.layout, Scope.layout]⟩
  | uses chapter condition => exact ⟨'u', by decide, by simp [SourceShape.layout]⟩

/-- A line starts with one of these characters. -/
theorem Shape.exists_head? (shape : Shape) : ∃ c ∈ firstChars, shape.chars.head? = some c := by
  have hchars : shape.chars = (ofOption shape.gate Gate.layout).chars ++
      (shape.source.layout.chars ++ actionChars shape.action) := List.append_assoc _ _ _
  cases hgate : shape.gate with
  | none =>
    obtain ⟨c, hc, hhead⟩ := exists_head?_source shape.source
    refine ⟨c, hc, ?_⟩
    rw [hchars, hgate, chars_ofOption_none, List.nil_append, List.head?_append, hhead,
      Option.some_or]
  | some gate =>
    obtain ⟨optional, expected⟩ := gate
    cases optional with
    | true => exact ⟨'~', by decide, by simp [hchars, hgate, Gate.layout]⟩
    | false =>
      cases expected with
      | true => exact ⟨'?', by decide, by simp [hchars, hgate, Gate.layout]⟩
      | false => exact ⟨'!', by decide, by simp [hchars, hgate, Gate.layout]⟩

/-! ## The last character -/

/-- A text ends with a character that is not blank. -/
def EndsPlain (cs : List Char) : Prop :=
  ∃ c, cs.getLast? = some c ∧ isBlank c = false

/-- A text that stands behind another one ends it. -/
theorem EndsPlain.append_left {cs : List Char} (h : EndsPlain cs) (before : List Char) :
    EndsPlain (before ++ cs) := by
  obtain ⟨c, hlast, hblank⟩ := h
  refine ⟨c, ?_, hblank⟩
  rw [List.getLast?_append, hlast, Option.some_or]

/-- A text still ends so when nothing follows, or another text that ends so. -/
theorem EndsPlain.append_right {cs ds : List Char} (h : EndsPlain cs)
    (hbehind : ds = [] ∨ EndsPlain ds) : EndsPlain (cs ++ ds) := by
  rcases hbehind with rfl | hbehind
  · rwa [List.append_nil]
  · exact hbehind.append_left cs

/-- A text whose characters are not blank ends so, unless it is empty. -/
theorem endsPlain_of_forall {cs : List Char} (hne : cs ≠ [])
    (h : ∀ c ∈ cs, isBlank c = false) : EndsPlain cs :=
  ⟨cs.getLast hne, List.getLast?_eq_some_getLast hne, h _ (List.getLast_mem hne)⟩

theorem endsPlain_singleton {c : Char} (h : isBlank c = false) : EndsPlain [c] :=
  ⟨c, rfl, h⟩

/-- A name ends with a character that is not blank. -/
theorem endsPlain_of_isName {cs : List Char} (h : isName cs = true) : EndsPlain cs := by
  obtain ⟨⟨c, rest, rfl, -⟩, hall, -⟩ := isName_iff.1 h
  exact endsPlain_of_forall (List.cons_ne_nil c rest) fun d hd => isBlank_of_isNameChar (hall d hd)

theorem endsPlain_bracketLayout (name : GroupName) (key : Option (List Char)) :
    (bracketLayout name key).chars = [] ∨ EndsPlain (bracketLayout name key).chars := by
  cases key with
  | none => exact .inl rfl
  | some cs => exact .inr ((endsPlain_singleton (c := ']') (by decide)).append_left (['['] ++ cs))

theorem endsPlain_braceLayout (name : GroupName) (body : Option (List Char)) :
    (braceLayout name body).chars = [] ∨ EndsPlain (braceLayout name body).chars := by
  cases body with
  | none => exact .inl rfl
  | some cs =>
    exact .inr ((endsPlain_singleton (c := '}') (by decide)).append_left ([':', '{'] ++ cs))

theorem endsPlain_flag {flag : Char} (hflag : isBlank flag = false) (told : Bool)
    (name : GroupName) :
    (onlyIf told (leaf name [flag])).chars = [] ∨
      EndsPlain (onlyIf told (leaf name [flag])).chars := by
  cases told with
  | false => exact .inl rfl
  | true => exact .inr (endsPlain_singleton hflag)

/-- A source ends with a character that is not blank. -/
theorem endsPlain_source (source : SourceShape) : EndsPlain source.layout.chars := by
  cases source with
  | exchange side part body =>
    refine EndsPlain.append_right (EndsPlain.append_left ?_ _) (endsPlain_braceLayout _ body)
    cases part with
    | head key =>
      have hhead : EndsPlain "head".toList := ⟨'d', rfl, by decide⟩
      exact hhead.append_right (endsPlain_bracketLayout _ key)
    | body => exact ⟨'y', rfl, by decide⟩
  | «variable» scope up name body =>
    have hvar : EndsPlain "var".toList := ⟨'r', rfl, by decide⟩
    exact ((hvar.append_left _).append_right (endsPlain_bracketLayout _ name)).append_right
      (endsPlain_braceLayout _ body)
  | uses chapter condition =>
    have huse : EndsPlain "use".toList := ⟨'e', rfl, by decide⟩
    exact (huse.append_right (endsPlain_bracketLayout _ chapter)).append_right
      (endsPlain_braceLayout _ condition)

/-- A spread suffix ends with a sign or an index if there is one. -/
theorem endsPlain_spread {spread : SpreadShape} (h : spread.Legible) :
    spread.layout.chars = [] ∨ EndsPlain spread.layout.chars := by
  cases spread with
  | none => exact .inl rfl
  | hash index =>
    right
    have hsign : EndsPlain ['_', '#'] := ⟨'#', rfl, by decide⟩
    cases index with
    | none => exact hsign
    | some digits =>
      obtain ⟨n, rfl⟩ := isPlainNumber_iff.1 h
      have hdigits : EndsPlain (natDigits n) := endsPlain_of_forall (natDigits_ne_nil n)
        fun c hc => isBlank_of_isDigit (isDigit_of_mem_natDigits hc)
      exact hdigits.append_left ['_', '#']
  | last => exact .inr ⟨'?', rfl, by decide⟩

/-- An action ends with a brace, a name, a sign or an index. -/
theorem endsPlain_action {action : ActionShape} (h : action.Legible) :
    EndsPlain action.layout.chars := by
  cases action with
  | literal cs =>
    exact ((endsPlain_singleton (c := '}') (by decide)).append_left (['{'] ++ cs)).append_left
      ['-', '>']
  | target t =>
    obtain ⟨hname, hspread⟩ := h
    have htarget : EndsPlain t.layout.chars :=
      (((((endsPlain_of_isName hname).append_left _).append_right
        (endsPlain_flag (by decide) t.tellMatched _)).append_right
        (endsPlain_flag (by decide) t.tellCount _)).append_right
        (endsPlain_flag (by decide) t.tellPassed _)).append_right (endsPlain_spread hspread)
    exact htarget.append_left ['-', '>']

/-- A line ends with a character that is not blank. -/
theorem Shape.endsPlain {shape : Shape} (h : shape.Legible) : EndsPlain shape.chars := by
  refine ((endsPlain_source shape.source).append_left _).append_right ?_
  cases haction : shape.action with
  | none => exact .inl rfl
  | some action => exact .inr (endsPlain_action (h.action action haction))

/-- A line that is read as a command starts with one of the characters above and ends with one that
is not blank. -/
theorem Command.ends_of_read {line : String} {c : Command} (h : Command.read line = .ok c) :
    (∃ d ∈ firstChars, line.toList.head? = some d) ∧ EndsPlain line.toList := by
  cases hshape : Shape.read? line.toList with
  | none =>
    rw [Command.read_eq, hshape] at h
    cases h
  | some shape =>
    obtain ⟨hchars, hlegible⟩ := Shape.chars_of_read? hshape
    rw [← hchars]
    exact ⟨shape.exists_head?, Shape.endsPlain hlegible⟩

end Playback
