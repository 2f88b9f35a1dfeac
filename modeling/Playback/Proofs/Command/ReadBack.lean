import Playback.Proofs.Command.Groups
import Playback.Proofs.Command.Reading
import Playback.Proofs.Count.RoundTrip

/-!
# Reading back shapes

The text of a legible shape is read as that shape. Names end where a flag or a spread suffix starts,
keys at their bracket and conditions at their brace. A match body ends at the first brace behind
which an action or the end follows, so it must not contain the separator of source and action; all
else may stand in it.
-/

namespace Playback

open Text
open Layout (ofOption chars_append chars_part chars_leaf chars_text chars_onlyIf)

/-! ## Signs and flags -/

/-- A sign of a scope is read back before a text without such a sign. -/
theorem readScope_chars {rest : List Char} (hchapter : rest.head? ≠ some '&')
    (hbounds : rest.head? ≠ some '%') (scope : Scope) (chapterName boundsName : GroupName) :
    readScope ((scope.layout chapterName boundsName).chars ++ rest) = (scope, rest) := by
  cases scope with
  | chapter => rfl
  | testBounds => rfl
  | «local» =>
    change readScope rest = _
    rw [readScope]
    · rintro cs rfl
      exact hchapter rfl
    · rintro cs rfl
      exact hbounds rfl

/-- A flag is read back before a text without it. -/
theorem readFlag_chars {flag : Char} {rest : List Char} (h : rest.head? ≠ some flag)
    (present : Bool) :
    readFlag flag ((if present then [flag] else []) ++ rest) = (present, rest) := by
  cases present with
  | true => exact if_pos rfl
  | false =>
    cases rest with
    | nil => rfl
    | cons c rest =>
      have hc : c ≠ flag := fun he => h (congrArg some he)
      exact if_neg hc

/-- A legible spread suffix is read back. -/
theorem readSpread_chars {spread : SpreadShape} (h : spread.Legible) :
    readSpread spread.layout.chars = some spread := by
  rcases spread with _ | (_ | index) | _
  · rfl
  · rfl
  · have hplain : isPlainNumber index = true := h
    change readSpread ('_' :: '#' :: index) = _
    rw [readSpread, if_pos hplain]
    rintro rfl
    exact absurd hplain (by decide)
  · rfl

theorem head?_spread_chars {spread : SpreadShape} {c : Char} (hc : c ≠ '_') :
    spread.layout.chars.head? ≠ some c := by
  rcases spread with _ | (_ | index) | _
  · simp [SpreadShape.layout]
  all_goals simpa [SpreadShape.layout] using hc.symm

/-! ## Targets -/

/-- What follows the name of a target: its flags and its spread suffix. -/
def TargetShape.suffix (t : TargetShape) : List Char :=
  (if t.tellMatched then ['?'] else []) ++ ((if t.tellCount then ['#'] else []) ++
    ((if t.tellPassed then ['@'] else []) ++ t.spread.layout.chars))

/-- The text of a target is its sign, its name and what follows it. -/
theorem TargetShape.chars_eq (t : TargetShape) :
    t.layout.chars =
      (t.scope.layout .targetChapter .targetBounds).chars ++ (t.name ++ t.suffix) := by
  simp only [TargetShape.layout, TargetShape.suffix, chars_part, chars_append, chars_leaf,
    chars_onlyIf, List.append_assoc]

theorem takeWhile_isNameChar_cons {c : Char} (h : isNameChar c = false) (cs : List Char) :
    (c :: cs).takeWhile isNameChar = [] := by
  rw [List.takeWhile_cons, h, if_neg Bool.false_ne_true]

theorem head?_flag_append {flag c : Char} (hne : flag ≠ c) {present : Bool} {rest : List Char}
    (h : rest.head? ≠ some c) : ((if present then [flag] else []) ++ rest).head? ≠ some c := by
  cases present with
  | true => exact fun he => hne (Option.some.inj he)
  | false => exact h

/-- Name characters behind a flag are not read past it. -/
theorem mem_takeWhile_of_flag {flag c : Char} (hflag : isNameChar flag = false) {present : Bool}
    {rest : List Char}
    (h : c ∈ ((if present then [flag] else []) ++ rest).takeWhile isNameChar) :
    c ∈ rest.takeWhile isNameChar := by
  cases present with
  | false => exact h
  | true =>
    have hnil := takeWhile_isNameChar_cons hflag rest
    rw [if_pos rfl, List.singleton_append, hnil] at h
    cases h

/-- Only underscores behind a name could belong to the name. -/
theorem eq_underscore_of_mem_takeWhile {t : TargetShape} {c : Char}
    (h : c ∈ t.suffix.takeWhile isNameChar) : c = '_' := by
  have hspread := mem_takeWhile_of_flag (by decide) (mem_takeWhile_of_flag (by decide)
    (mem_takeWhile_of_flag (by decide) h))
  have hcut (cs : List Char) : ('_' :: '#' :: cs).takeWhile isNameChar = ['_'] := by
    rw [List.takeWhile_cons_of_pos (by decide), takeWhile_isNameChar_cons (by decide)]
  rcases t with ⟨scope, name, matched, count, passed, _ | (_ | index) | _⟩
  · cases hspread
  · change c ∈ ('_' :: '#' :: []).takeWhile isNameChar at hspread
    rw [hcut] at hspread
    exact List.mem_singleton.1 hspread
  · change c ∈ ('_' :: '#' :: index).takeWhile isNameChar at hspread
    rw [hcut] at hspread
    exact List.mem_singleton.1 hspread
  · exact List.mem_singleton.1 hspread

/-- A name and the underscores behind it are told apart. -/
theorem splitUnderscores_append {name underscores : List Char} (hname : name.getLast? ≠ some '_')
    (h : ∀ c ∈ underscores, c = '_') :
    splitUnderscores (name ++ underscores) = (name, underscores) := by
  have hrev : ∀ c ∈ underscores.reverse, (c == '_') = true := by simpa using h
  rw [splitUnderscores, List.reverse_append, List.dropWhile_append_of_pos hrev,
    List.takeWhile_append_of_pos hrev]
  rcases List.eq_nil_or_concat name with rfl | ⟨front, c, rfl⟩
  · simp
  · have hc : (c == '_') = false := by simpa using hname
    rw [List.concat_eq_append, List.reverse_append, List.reverse_singleton, List.singleton_append,
      List.dropWhile_cons_of_neg (by simpa using hc),
      List.takeWhile_cons_of_neg (by simpa using hc)]
    simp

/-- What a name is made of. -/
theorem isName_iff {cs : List Char} :
    isName cs = true ↔ (∃ c rest, cs = c :: rest ∧ c.isAlpha = true) ∧
      (∀ c ∈ cs, isNameChar c = true) ∧ cs.getLast? ≠ some '_' := by
  rw [isName, Bool.and_eq_true, Bool.and_eq_true, List.all_eq_true, bne_iff_ne, and_assoc]
  cases cs with
  | nil => simp
  | cons c rest => simp

/-- A character that is no letter does not start a name. -/
theorem head?_ne_of_isName {cs : List Char} (h : isName cs = true) {c : Char}
    (hc : c.isAlpha = false) (rest : List Char) : (cs ++ rest).head? ≠ some c := by
  obtain ⟨⟨d, ds, rfl, hd⟩, -⟩ := isName_iff.1 h
  rw [List.cons_append, List.head?_cons, ne_eq, Option.some_inj]
  rintro rfl
  exact Bool.false_ne_true (hc.symm.trans hd)

/-- A legible target is read back. -/
theorem readTarget_chars {t : TargetShape} (h : t.Legible) :
    readTarget t.layout.chars = some t := by
  obtain ⟨hname, hspread⟩ := h
  obtain ⟨-, hall, hlast⟩ := isName_iff.1 hname
  have hscope := readScope_chars (head?_ne_of_isName hname (c := '&') (by decide) t.suffix)
    (head?_ne_of_isName hname (c := '%') (by decide) t.suffix) t.scope .targetChapter .targetBounds
  have hunderscores :=
    splitUnderscores_append hlast fun c => eq_underscore_of_mem_takeWhile (t := t)
  have hat : t.spread.layout.chars.head? ≠ some '@' := head?_spread_chars (by decide)
  have hhash : t.spread.layout.chars.head? ≠ some '#' := head?_spread_chars (by decide)
  have hquestion : t.spread.layout.chars.head? ≠ some '?' := head?_spread_chars (by decide)
  rw [readTarget_eq, t.chars_eq, hscope]
  dsimp only
  rw [List.takeWhile_append_of_pos hall, List.dropWhile_append_of_pos hall, hunderscores]
  dsimp only
  rw [List.takeWhile_append_dropWhile, TargetShape.suffix,
    readFlag_chars (head?_flag_append (by decide) (head?_flag_append (by decide) hquestion)),
    readFlag_chars (head?_flag_append (by decide) hhash), readFlag_chars hat, if_pos hname,
    readSpread_chars hspread]
  rfl

/-! ## Actions -/

/-- The text of a target does not start with a brace. -/
theorem head?_target_chars {t : TargetShape} (h : t.Legible) : t.layout.chars.head? ≠ some '{' := by
  have hname := head?_ne_of_isName h.1 (c := '{') (by decide) t.suffix
  rw [t.chars_eq]
  cases t.scope with
  | «local» => exact hname
  | chapter => exact fun he => absurd (Option.some.inj he) (by decide)
  | testBounds => exact fun he => absurd (Option.some.inj he) (by decide)

/-- A legible action is read back. -/
theorem readAction_chars {action : Option ActionShape} (h : ∀ a ∈ action, a.Legible) :
    readAction (actionChars action) = some action := by
  rcases action with _ | ⟨cs | t⟩
  · rfl
  · have hline : '\n' ∉ cs := h _ rfl
    have hchars : actionChars (some (.literal cs)) = '-' :: '>' :: '{' :: (cs ++ ['}']) := by
      simp [actionChars, ActionShape.layout]
    rw [hchars, readAction]
    simp [hline]
  · have ht : t.Legible := h _ rfl
    have hchars : actionChars (some (.target t)) = '-' :: '>' :: t.layout.chars := by
      simp [actionChars, ActionShape.layout]
    rw [hchars, readAction, readTarget_chars ht]
    · rfl
    · intro rest he
      exact head?_target_chars ht (congrArg List.head? he)

/-- What is read as an action is empty or starts with an arrow. -/
theorem arrow_of_readAction {cs : List Char} {action : Option ActionShape}
    (h : readAction cs = some action) : cs = [] ∨ ['-', '>'] <+: cs := by
  unfold readAction at h
  split at h
  · exact .inl rfl
  · exact .inr ⟨_, rfl⟩
  · exact .inr ⟨_, rfl⟩
  · cases h

theorem head?_actionChars {c : Char} (hc : c ≠ '-') (action : Option ActionShape) :
    (actionChars action).head? ≠ some c := by
  rcases action with _ | ⟨cs | t⟩
  · simp [actionChars]
  all_goals simpa [actionChars, ActionShape.layout] using hc.symm

/-! ## Bodies, conditions and keys -/

/-- An arrow at the start of a body with a brace behind it stands in the body. -/
theorem arrow_prefix_body {body rest : List Char} (h : ['-', '>'] <+: body ++ '}' :: rest) :
    ['-', '>'] <+: body := by
  rcases body with _ | ⟨c, _ | ⟨d, body⟩⟩
  · exact absurd (List.cons_prefix_cons.1 h).1 (by decide)
  · exact absurd (List.cons_prefix_cons.1 (List.cons_prefix_cons.1 h).2).1 (by decide)
  · obtain ⟨hc, hrest⟩ := List.cons_prefix_cons.1 h
    obtain ⟨hd, -⟩ := List.cons_prefix_cons.1 hrest
    rw [← hc, ← hd]
    exact ⟨body, rfl⟩

/-- A match body without the separator is read back: no action follows the braces inside it. -/
theorem readBody_chars {body : List Char} {action : Option ActionShape} (hline : '\n' ∉ body)
    (hseparator : ¬ separator <:+: body) (haction : ∀ a ∈ action, a.Legible) :
    readBody (body ++ '}' :: actionChars action) = some (body, action) := by
  induction body with
  | nil =>
    rw [List.nil_append, readBody, if_neg (by decide), if_pos rfl, readAction_chars haction]
  | cons c body ih =>
    rw [List.mem_cons, not_or] at hline
    rw [List.infix_cons_iff, not_or] at hseparator
    -- an arrow behind a brace of the body would make the two the separator
    have hnone :
        (if c = '}' then readAction (body ++ '}' :: actionChars action) else none) = none := by
      by_cases hc : c = '}'
      · rw [if_pos hc, Option.eq_none_iff_forall_ne_some]
        intro found hfound
        rcases arrow_of_readAction hfound with hnil | harrow
        · simp at hnil
        · have hprefix := arrow_prefix_body harrow
          exact hseparator.1 (hc ▸ List.cons_prefix_cons.2 ⟨rfl, hprefix⟩)
      · rw [if_neg hc]
    have hrest := ih hline.2 hseparator.2
    rw [List.cons_append, readBody, if_neg (fun he => hline.1 he.symm), hnone, hrest]
    rfl

/-- A match body that may be missing is read back. -/
theorem readMatch_chars {body : Option (List Char)} {action : Option ActionShape}
    (hline : ∀ b ∈ body, '\n' ∉ b) (hseparator : ∀ b ∈ body, ¬ separator <:+: b)
    (haction : ∀ a ∈ action, a.Legible) (name : GroupName) :
    readMatch ((braceLayout name body).chars ++ actionChars action) = some (body, action) := by
  cases body with
  | none =>
    change readMatch (actionChars action) = _
    rw [readMatch, readAction_chars haction]
    · rfl
    · intro rest he
      exact head?_actionChars (c := ':') (by decide) action (congrArg List.head? he)
  | some body =>
    have hbody := readBody_chars (hline body rfl) (hseparator body rfl) haction
    have hchars : (braceLayout name (some body)).chars ++ actionChars action =
        ':' :: '{' :: (body ++ '}' :: actionChars action) := by
      simp [braceLayout]
    rw [hchars, readMatch, hbody]
    rfl

/-- No closing brace stands in a condition. -/
theorem brace_not_mem_condition {cs : List Char} (h : isConditionText cs = true) : '}' ∉ cs := by
  obtain ⟨e, rfl⟩ := exists_chars_of_isConditionText h
  exact e.not_mem_chars (by decide) (by decide) (by decide)

/-- A condition that may be missing is read back. -/
theorem readCondition_chars {condition : Option (List Char)} {action : Option ActionShape}
    (hcondition : ∀ c ∈ condition, isConditionText c = true) (haction : ∀ a ∈ action, a.Legible)
    (name : GroupName) :
    readCondition ((braceLayout name condition).chars ++ actionChars action) =
      some (condition, action) := by
  cases condition with
  | none =>
    change readCondition (actionChars action) = _
    rw [readCondition, readAction_chars haction]
    · rfl
    · intro rest he
      exact head?_actionChars (c := ':') (by decide) action (congrArg List.head? he)
  | some condition =>
    have htext : isConditionText condition = true := hcondition condition rfl
    have hcut : cutAt? ['}'] (condition ++ '}' :: actionChars action) =
        some (condition, actionChars action) :=
      cutAt?_singleton_eq_some_iff.2 ⟨rfl, brace_not_mem_condition htext⟩
    have hchars : (braceLayout name (some condition)).chars ++ actionChars action =
        ':' :: '{' :: (condition ++ '}' :: actionChars action) := by
      simp [braceLayout]
    rw [hchars, readCondition, hcut]
    dsimp only
    rw [if_pos htext, readAction_chars haction]
    rfl

/-- A key that may be missing is read back before a text that does not start with a bracket. -/
theorem readKey_chars {valid : List Char → Bool} {key : Option (List Char)} {rest : List Char}
    (hkey : ∀ k ∈ key, valid k = true ∧ ']' ∉ k) (hrest : rest.head? ≠ some '[')
    (name : GroupName) :
    readKey valid ((bracketLayout name key).chars ++ rest) = some (key, rest) := by
  cases key with
  | none =>
    change readKey valid rest = _
    rw [readKey]
    rintro cs rfl
    exact hrest rfl
  | some key =>
    obtain ⟨hvalid, hbracket⟩ := hkey key rfl
    have hcut : cutAt? [']'] (key ++ ']' :: rest) = some (key, rest) :=
      cutAt?_singleton_eq_some_iff.2 ⟨rfl, hbracket⟩
    have hchars : (bracketLayout name (some key)).chars ++ rest = '[' :: (key ++ ']' :: rest) := by
      simp [bracketLayout]
    rw [hchars, readKey, hcut]
    exact if_pos hvalid

/-! ## Sources and lines -/

theorem head?_braceLayout {c : Char} (hcolon : c ≠ ':') (harrow : c ≠ '-') (name : GroupName)
    (body : Option (List Char)) (action : Option ActionShape) :
    ((braceLayout name body).chars ++ actionChars action).head? ≠ some c := by
  cases body with
  | none => exact head?_actionChars harrow action
  | some body => simpa [braceLayout] using hcolon.symm

/-- A key in brackets as it is read. -/
theorem key_of_isKey {key : Option (List Char)} (h : ∀ k ∈ key, IsKey k) :
    ∀ k ∈ key, (!k.isEmpty) = true ∧ ']' ∉ k := by
  intro k hk
  obtain ⟨hne, hbracket⟩ := h k hk
  exact ⟨by simpa using hne, hbracket⟩

/-- No closing bracket stands in a name. -/
theorem bracket_not_mem_name {cs : List Char} (h : isName cs = true) : ']' ∉ cs := by
  obtain ⟨-, hall, -⟩ := isName_iff.1 h
  exact fun hm => absurd (hall ']' hm) (by decide)

variable {action behind : Option ActionShape}

/-- A source in a message is read back behind the word for its side, with the match body that is
read behind it. -/
theorem readExchange_chars {part : PartShape} {body found : Option (List Char)}
    (hpart : part.Legible)
    (hmatch : readMatch ((braceLayout .exchangeMatch body).chars ++ actionChars action) =
      some (found, behind)) (side : Side) :
    readExchange side
      (part.chars ++ ((braceLayout .exchangeMatch body).chars ++ actionChars action)) =
      some (.exchange side part found, behind) := by
  cases part with
  | head key =>
    have hkey := readKey_chars (key_of_isKey hpart)
      (head?_braceLayout (c := '[') (by decide) (by decide) .exchangeMatch body action) .headKey
    rw [readExchange, PartShape.chars, List.append_assoc, afterPrefix?_append]
    simp only [hkey, hmatch, Option.bind_eq_bind, Option.bind_some]
    rfl
  | body =>
    have hword : afterPrefix? "head".toList ("body".toList ++
        ((braceLayout .exchangeMatch body).chars ++ actionChars action)) = none := rfl
    rw [readExchange, PartShape.chars, hword]
    simp only [afterPrefix?_append, hmatch, Option.bind_eq_bind, Option.bind_some]
    rfl

/-- A variable source is read back, with the match body that is read behind it. -/
theorem readVariable_chars {name body found : Option (List Char)}
    (hname : ∀ n ∈ name, isName n = true)
    (hmatch : readMatch ((braceLayout .variableMatch body).chars ++ actionChars action) =
      some (found, behind)) (scope : Scope) (up : Bool) :
    readVariable ((SourceShape.variable scope up name body).layout.chars ++ actionChars action) =
      some (.variable scope up name found, behind) := by
  have hkey := readKey_chars
    (fun n hn => ⟨hname n hn, bracket_not_mem_name (hname n hn)⟩)
    (head?_braceLayout (c := '[') (by decide) (by decide) .variableMatch body action) .variableName
  obtain ⟨rest, hrest⟩ : ∃ rest, rest = (bracketLayout .variableName name).chars ++
    ((braceLayout .variableMatch body).chars ++ actionChars action) := ⟨_, rfl⟩
  have hchars : (SourceShape.variable scope up name body).layout.chars ++ actionChars action =
      (scope.layout .variableChapter .variableBounds).chars ++
        ((if up then ['^'] else []) ++ ("var".toList ++ rest)) := by
    simp only [SourceShape.layout, chars_part, chars_append, chars_onlyIf, chars_leaf, chars_text,
      List.append_assoc, hrest]
  have hhead {c : Char} (hv : 'v' ≠ c) : ("var".toList ++ rest).head? ≠ some c :=
    fun he => hv (Option.some.inj he)
  have hchapter : ((if up then ['^'] else []) ++ ("var".toList ++ rest)).head? ≠ some '&' :=
    head?_flag_append (by decide) (hhead (by decide))
  have hbounds : ((if up then ['^'] else []) ++ ("var".toList ++ rest)).head? ≠ some '%' :=
    head?_flag_append (by decide) (hhead (by decide))
  have hscope := readScope_chars hchapter hbounds scope .variableChapter .variableBounds
  have hcaret : ("var".toList ++ rest).head? ≠ some '^' := hhead (by decide)
  have hup := readFlag_chars hcaret up
  rw [← hrest] at hkey
  rw [hchars, readVariable, hscope]
  simp only [hup, afterPrefix?_append, hkey, hmatch, Option.bind_eq_bind, Option.bind_some]
  rfl

/-- A use count source is read back. -/
theorem readUses_chars {chapter condition : Option (List Char)} (hchapter : ∀ c ∈ chapter, IsKey c)
    (hcondition : ∀ c ∈ condition, isConditionText c = true)
    (haction : ∀ a ∈ action, a.Legible) :
    readUses ((SourceShape.uses chapter condition).layout.chars ++ actionChars action) =
      some (.uses chapter condition, action) := by
  have hbehind := readCondition_chars hcondition haction .usesCondition
  have hkey := readKey_chars (key_of_isKey hchapter)
    (head?_braceLayout (c := '[') (by decide) (by decide) .usesCondition condition action)
    .usesChapter
  have hchars : (SourceShape.uses chapter condition).layout.chars ++ actionChars action =
      "use".toList ++ ((bracketLayout .usesChapter chapter).chars ++
        ((braceLayout .usesCondition condition).chars ++ actionChars action)) := by
    simp only [SourceShape.layout, chars_part, chars_append, chars_text, List.append_assoc]
  rw [hchars, readUses]
  simp only [afterPrefix?_append, hkey, hbehind, Option.bind_eq_bind, Option.bind_some]
  rfl

theorem head?_variable_chars (scope : Scope) (up : Bool) (name body : Option (List Char))
    (rest : List Char) :
    ((SourceShape.variable scope up name body).layout.chars ++ rest).head? ∈
      [some '&', some '%', some '^', some 'v'] := by
  cases scope <;> cases up <;> simp [SourceShape.layout, Scope.layout]

/-- A source starts with a sign or with the first letter of its word. -/
theorem head?_source_chars (source : SourceShape) (rest : List Char) :
    (source.layout.chars ++ rest).head? ∈
      [some 'r', some 'u', some '&', some '%', some '^', some 'v'] := by
  cases source with
  | exchange side part body => cases side <;> simp [SourceShape.layout]
  | «variable» scope up name body =>
    exact List.mem_cons_of_mem _ (List.mem_cons_of_mem _
      (head?_variable_chars scope up name body rest))
  | uses chapter condition => simp [SourceShape.layout]

/-- The source with another match body, if it may have one. -/
def SourceShape.withBody (body : Option (List Char)) : SourceShape → SourceShape
  | .exchange side part _ => .exchange side part body
  | .variable scope up name _ => .variable scope up name body
  | .uses chapter condition => .uses chapter condition

theorem SourceShape.withBody_body? (source : SourceShape) :
    source.withBody source.body? = source := by
  cases source <;> rfl

/-- The text of a source and that of the action behind it are read back, with the match body and the
action that are read behind the rest of the source. -/
theorem readSource_chars {source : SourceShape} {found : Option (List Char)}
    (hsource : source.Legible) (haction : ∀ a ∈ action, a.Legible)
    (hmatch : ∀ name, readMatch ((braceLayout name source.body?).chars ++ actionChars action) =
      some (found, behind)) :
    readSource (source.layout.chars ++ actionChars action) =
      some (source.withBody found, behind) := by
  cases source with
  | exchange side part body =>
    have hread := readExchange_chars hsource.1 (hmatch .exchangeMatch) side
    cases side with
    | request =>
      have hchars : (SourceShape.exchange .request part body).layout.chars ++ actionChars action =
          "request:".toList ++ (part.chars ++
            ((braceLayout .exchangeMatch body).chars ++ actionChars action)) := by
        cases part <;> simp [SourceShape.layout, PartShape.chars]
      rw [hchars, readSource, afterPrefix?_append]
      exact hread
    | response =>
      have hchars : (SourceShape.exchange .response part body).layout.chars ++ actionChars action =
          "response:".toList ++ (part.chars ++
            ((braceLayout .exchangeMatch body).chars ++ actionChars action)) := by
        cases part <;> simp [SourceShape.layout, PartShape.chars]
      have hrequest (rest : List Char) :
          afterPrefix? "request:".toList ("response:".toList ++ rest) = none := rfl
      rw [hchars, readSource, hrequest]
      dsimp only
      rw [afterPrefix?_append]
      exact hread
  | «variable» scope up name body =>
    have hbody : readMatch ((braceLayout .variableMatch body).chars ++ actionChars action) =
        some (found, behind) := hmatch .variableMatch
    have hread := readVariable_chars hsource.1 hbody scope up
    have hhead := head?_variable_chars scope up name body (actionChars action)
    have hr : ((SourceShape.variable scope up name body).layout.chars ++
        actionChars action).head? ≠ some 'r' := by
      intro he
      rw [he] at hhead
      exact absurd hhead (by decide)
    have hrequest : afterPrefix? "request:".toList _ = none :=
      afterPrefix?_of_head?_ne hr "equest:".toList
    have hresponse : afterPrefix? "response:".toList _ = none :=
      afterPrefix?_of_head?_ne hr "esponse:".toList
    rw [readSource, hrequest]
    dsimp only
    rw [hresponse]
    dsimp only
    rw [hread]
    rfl
  | uses chapter condition =>
    have hread := readUses_chars hsource.1 hsource.2 haction
    have hnone : readMatch ((braceLayout .usesCondition none).chars ++ actionChars action) =
        some (none, action) := readMatch_chars (by simp) (by simp) haction .usesCondition
    obtain ⟨-, rfl⟩ : none = found ∧ action = behind := by
      simpa using hnone.symm.trans (hmatch .usesCondition)
    obtain ⟨rest, hchars⟩ : ∃ rest,
        (SourceShape.uses chapter condition).layout.chars ++ actionChars action =
          'u' :: rest := ⟨_, rfl⟩
    rw [hchars] at hread ⊢
    change (readVariable ('u' :: rest) <|> readUses ('u' :: rest)) = _
    have hvariable : readVariable ('u' :: rest) = none := rfl
    rw [hvariable, hread]
    rfl

/-- A gate is read back, and a text without one has none. -/
theorem readGate_chars {cs : List Char}
    (h : cs.head? ∈ [some 'r', some 'u', some '&', some '%', some '^', some 'v'])
    (gate : Option Gate) : readGate ((ofOption gate Gate.layout).chars ++ cs) = (gate, cs) := by
  cases gate with
  | some gate =>
    rcases gate with ⟨_ | _, _ | _⟩ <;> rfl
  | none =>
    change readGate cs = _
    unfold readGate
    split <;> first | rfl | exact absurd h (by simp)

/-- The text of a legible shape is read back, with the match body and the action that are read
behind the rest of its source. -/
theorem Shape.read?_of_match {shape : Shape} {found : Option (List Char)} (h : shape.Legible)
    (hmatch : ∀ name, readMatch ((braceLayout name shape.source.body?).chars ++
      actionChars shape.action) = some (found, behind)) :
    Shape.read? shape.chars = some ⟨shape.gate, shape.source.withBody found, behind⟩ := by
  have hsource := readSource_chars h.source h.action hmatch
  have hgate := readGate_chars (head?_source_chars shape.source (actionChars shape.action))
    shape.gate
  have hchars : shape.chars = (ofOption shape.gate Gate.layout).chars ++
      (shape.source.layout.chars ++ actionChars shape.action) := by
    rw [Shape.chars, Shape.layout, chars_append, chars_append, List.append_assoc, actionChars]
  rw [hchars, Shape.read?, hgate]
  dsimp only
  rw [hsource]
  rfl

/-- No line end stands in the match body of a legible source. -/
theorem SourceShape.Legible.line {source : SourceShape} (h : source.Legible) :
    ∀ b ∈ source.body?, '\n' ∉ b := by
  cases source with
  | exchange side part body => exact h.2
  | «variable» scope up name body => exact h.2
  | uses chapter condition => exact fun _ hb => nomatch hb

/-- The text of a legible shape is read as that shape, unless its match body has a separator. -/
theorem Shape.read?_chars {shape : Shape} (h : shape.Legible)
    (hseparator : ∀ b ∈ shape.source.body?, ¬ separator <:+: b) :
    Shape.read? shape.chars = some shape := by
  have hmatch := readMatch_chars h.source.line hseparator h.action
  rw [Shape.read?_of_match h hmatch, SourceShape.withBody_body?]

end Playback
