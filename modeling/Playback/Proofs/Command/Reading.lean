import Playback.Proofs.Command.Layout
import Playback.Proofs.Text.Cut

/-!
# Reading lines

A line that is read as a shape is the text of that shape, and the shape is legible: its names are
names, its keys can stand in brackets, its numbers are plain and its bodies stay on one line. In
turn the text of a legible shape is read as that shape, unless its match body contains the separator
of source and action.
-/

namespace Playback

open Text
open Layout (ofOption chars_append chars_part chars_leaf chars_text chars_onlyIf)

/-! ## Legible shapes -/

/-- The text of a part: its word, and the key in brackets. -/
def PartShape.chars : PartShape → List Char
  | .head key => "head".toList ++ (bracketLayout .headKey key).chars
  | .body => "body".toList

/-- A text that can stand in brackets. -/
def IsKey (cs : List Char) : Prop :=
  cs ≠ [] ∧ ']' ∉ cs

/-- The key of a part can stand in brackets. -/
def PartShape.Legible : PartShape → Prop
  | .head key => ∀ cs ∈ key, IsKey cs
  | .body => True

/-- The texts of a source can stand at their places. -/
def SourceShape.Legible : SourceShape → Prop
  | .exchange _ part body => part.Legible ∧ ∀ cs ∈ body, '\n' ∉ cs
  | .variable _ _ name body => (∀ cs ∈ name, isName cs = true) ∧ ∀ cs ∈ body, '\n' ∉ cs
  | .uses chapter condition =>
    (∀ cs ∈ chapter, IsKey cs) ∧ ∀ cs ∈ condition, isConditionText cs = true

/-- The index of a spread suffix is a plain number. -/
def SpreadShape.Legible : SpreadShape → Prop
  | .hash (some index) => isPlainNumber index = true
  | .none | .hash Option.none | .last => True

/-- The name of a target is a name, and its spread suffix is legible. -/
def TargetShape.Legible (t : TargetShape) : Prop :=
  isName t.name = true ∧ t.spread.Legible

/-- The texts of an action can stand at their places. -/
def ActionShape.Legible : ActionShape → Prop
  | .literal cs => '\n' ∉ cs
  | .target t => t.Legible

/-- The texts of a line can stand at their places. -/
structure Shape.Legible (shape : Shape) : Prop where
  /-- Those of the source. -/
  source : shape.source.Legible
  /-- Those of the action. -/
  action : ∀ action ∈ shape.action, action.Legible

/-- The text of an action that may be missing. -/
def actionChars (action : Option ActionShape) : List Char :=
  (ofOption action ActionShape.layout).chars

/-! ## Lines that are read -/

/-- A gate and what follows it are the text. -/
theorem chars_readGate (cs : List Char) :
    (ofOption (readGate cs).1 Gate.layout).chars ++ (readGate cs).2 = cs := by
  unfold readGate
  split <;> rfl

/-- A sign of a scope and what follows it are the text. -/
theorem chars_readScope (cs : List Char) (chapterName boundsName : GroupName) :
    ((readScope cs).1.layout chapterName boundsName).chars ++ (readScope cs).2 = cs := by
  unfold readScope
  split <;> rfl

/-- A flag and what follows it are the text. -/
theorem chars_readFlag (flag : Char) (cs : List Char) :
    (if (readFlag flag cs).1 then [flag] else []) ++ (readFlag flag cs).2 = cs := by
  cases cs with
  | nil => rfl
  | cons c rest =>
    by_cases h : c = flag
    · rw [readFlag, if_pos h, h]
      rfl
    · rw [readFlag, if_neg h]
      rfl

/-- A spread suffix that is read is the text. -/
theorem chars_of_readSpread {cs : List Char} {spread : SpreadShape}
    (h : readSpread cs = some spread) : spread.layout.chars = cs ∧ spread.Legible := by
  unfold readSpread at h
  split at h
  · cases h
    exact ⟨rfl, trivial⟩
  · cases h
    exact ⟨rfl, trivial⟩
  · cases h
    exact ⟨rfl, trivial⟩
  · rename_i index hindex
    split at h
    · rename_i hplain
      cases h
      exact ⟨rfl, hplain⟩
    · cases h
  · cases h

/-- The text is what stands before the underscores at its end, and those. -/
theorem append_splitUnderscores (cs : List Char) :
    (splitUnderscores cs).1 ++ (splitUnderscores cs).2 = cs := by
  rw [splitUnderscores, ← List.reverse_append, List.takeWhile_append_dropWhile,
    List.reverse_reverse]

/-- A target is read part after part. -/
theorem readTarget_eq (cs : List Char) :
    readTarget cs =
      let sign := readScope cs
      let name := splitUnderscores (sign.2.takeWhile isNameChar)
      let matched := readFlag '?' (name.2 ++ sign.2.dropWhile isNameChar)
      let count := readFlag '#' matched.2
      let passed := readFlag '@' count.2
      if isName name.1 then
        (readSpread passed.2).map fun spread =>
          ⟨sign.1, name.1, matched.1, count.1, passed.1, spread⟩
      else none := rfl

/-- A target that is read is the text. -/
theorem chars_of_readTarget {cs : List Char} {t : TargetShape} (h : readTarget cs = some t) :
    t.layout.chars = cs ∧ t.Legible := by
  rw [readTarget_eq] at h
  extract_lets sign name matched count passed at h
  split at h
  · rename_i hname
    obtain ⟨spread, hspread, rfl⟩ := Option.map_eq_some_iff.1 h
    obtain ⟨hchars, hlegible⟩ := chars_of_readSpread hspread
    refine ⟨?_, hname, hlegible⟩
    have hscope := chars_readScope cs .targetChapter .targetBounds
    have hunderscores := append_splitUnderscores (sign.2.takeWhile isNameChar)
    have hmatched := chars_readFlag '?' (name.2 ++ sign.2.dropWhile isNameChar)
    have hcount := chars_readFlag '#' matched.2
    have hpassed := chars_readFlag '@' count.2
    simp only [TargetShape.layout, chars_part, chars_append, chars_leaf, chars_onlyIf, hchars,
      List.append_assoc]
    rw [hpassed, hcount, hmatched, ← List.append_assoc name.1, hunderscores,
      List.takeWhile_append_dropWhile, hscope]
  · cases h

/-- An action that is read is the text. -/
theorem chars_of_readAction {cs : List Char} {action : Option ActionShape}
    (h : readAction cs = some action) :
    actionChars action = cs ∧ ∀ a ∈ action, a.Legible := by
  unfold readAction at h
  split at h
  · cases h
    exact ⟨rfl, by simp⟩
  · rename_i rest
    dsimp only at h
    split at h
    · rename_i hend
      rw [Bool.and_eq_true, decide_eq_true_iff] at hend
      obtain ⟨inner, rfl⟩ := List.getLast?_eq_some_iff.1 hend.1
      have hline := hend.2
      cases h
      rw [List.dropLast_concat] at hline ⊢
      refine ⟨?_, by simpa [ActionShape.Legible] using hline⟩
      simp [actionChars, ActionShape.layout]
    · cases h
  · obtain ⟨t, ht, rfl⟩ := Option.map_eq_some_iff.1 h
    obtain ⟨hchars, hlegible⟩ := chars_of_readTarget ht
    refine ⟨?_, by simpa [ActionShape.Legible] using hlegible⟩
    simp [actionChars, ActionShape.layout, hchars]
  · cases h

/-- A match body that is read, its closing brace and the action behind it are the text. -/
theorem chars_of_readBody {cs body : List Char} {action : Option ActionShape}
    (h : readBody cs = some (body, action)) :
    body ++ '}' :: actionChars action = cs ∧ '\n' ∉ body ∧ ∀ a ∈ action, a.Legible := by
  induction cs generalizing body with
  | nil => cases h
  | cons c rest ih =>
    rw [readBody] at h
    split at h
    · cases h
    rename_i hline
    split at h
    · rename_i found hfound
      cases h
      split at hfound
      · rename_i hc
        obtain ⟨hchars, hlegible⟩ := chars_of_readAction hfound
        refine ⟨?_, by simp, hlegible⟩
        rw [hchars, hc]
        rfl
      · cases hfound
    · obtain ⟨⟨b, a⟩, hread, he⟩ := Option.map_eq_some_iff.1 h
      cases he
      obtain ⟨hchars, hbody, hlegible⟩ := ih hread
      refine ⟨?_, ?_, hlegible⟩
      · rw [List.cons_append, hchars]
      · rw [List.mem_cons, not_or]
        exact ⟨fun he => hline he.symm, hbody⟩

/-- A match body that may be missing and the action behind it are the text. -/
theorem chars_of_readMatch {cs : List Char} {body : Option (List Char)}
    {action : Option ActionShape} (h : readMatch cs = some (body, action)) (name : GroupName) :
    (braceLayout name body).chars ++ actionChars action = cs ∧ (∀ b ∈ body, '\n' ∉ b) ∧
      ∀ a ∈ action, a.Legible := by
  unfold readMatch at h
  split at h
  · obtain ⟨⟨b, a⟩, hread, he⟩ := Option.map_eq_some_iff.1 h
    cases he
    obtain ⟨hchars, hbody, hlegible⟩ := chars_of_readBody hread
    refine ⟨?_, by simpa using hbody, hlegible⟩
    simp [braceLayout, hchars]
  · obtain ⟨a, hread, he⟩ := Option.map_eq_some_iff.1 h
    cases he
    obtain ⟨hchars, hlegible⟩ := chars_of_readAction hread
    exact ⟨hchars, by simp, hlegible⟩

/-- A condition that may be missing and the action behind it are the text. -/
theorem chars_of_readCondition {cs : List Char} {condition : Option (List Char)}
    {action : Option ActionShape} (h : readCondition cs = some (condition, action))
    (name : GroupName) :
    (braceLayout name condition).chars ++ actionChars action = cs ∧
      (∀ c ∈ condition, isConditionText c = true) ∧ ∀ a ∈ action, a.Legible := by
  unfold readCondition at h
  split at h
  · split at h
    · rename_i rest inner behind hcut
      split at h
      · rename_i hcondition
        obtain ⟨a, hread, he⟩ := Option.map_eq_some_iff.1 h
        cases he
        obtain ⟨hchars, hlegible⟩ := chars_of_readAction hread
        refine ⟨?_, by simpa using hcondition, hlegible⟩
        simp [braceLayout, hchars, eq_of_cutAt? hcut]
      · cases h
    · cases h
  · obtain ⟨a, hread, he⟩ := Option.map_eq_some_iff.1 h
    cases he
    obtain ⟨hchars, hlegible⟩ := chars_of_readAction hread
    exact ⟨hchars, by simp, hlegible⟩

/-- A key that may be missing and what follows it are the text. -/
theorem chars_of_readKey {valid : List Char → Bool} {cs rest : List Char}
    {key : Option (List Char)} (h : readKey valid cs = some (key, rest)) (name : GroupName) :
    (bracketLayout name key).chars ++ rest = cs ∧ ∀ k ∈ key, valid k = true ∧ ']' ∉ k := by
  unfold readKey at h
  split at h
  · split at h
    · rename_i inner behind hcut
      obtain ⟨hchars, hbracket⟩ := cutAt?_singleton_eq_some_iff.1 hcut
      split at h
      · rename_i hvalid
        cases h
        refine ⟨?_, by simpa using ⟨hvalid, hbracket⟩⟩
        simp [bracketLayout, hchars]
      · cases h
    · cases h
  · cases h
    exact ⟨rfl, by simp⟩

/-- A source in a message, behind the word for its side, and the action behind it are the text. -/
theorem chars_of_readExchange {side : Side} {cs : List Char} {source : SourceShape}
    {action : Option ActionShape} (h : readExchange side cs = some (source, action)) :
    ∃ part body, source = .exchange side part body ∧
      part.chars ++ ((braceLayout .exchangeMatch body).chars ++ actionChars action) = cs ∧
      source.Legible ∧ ∀ a ∈ action, a.Legible := by
  unfold readExchange at h
  split at h
  · rename_i rest hhead
    obtain ⟨⟨key, behind⟩, hkey, h⟩ := Option.bind_eq_some_iff.1 h
    obtain ⟨⟨body, a⟩, hmatch, h⟩ := Option.bind_eq_some_iff.1 h
    cases h
    obtain ⟨hkeychars, hkeys⟩ := chars_of_readKey hkey .headKey
    obtain ⟨hchars, hbody, hlegible⟩ := chars_of_readMatch hmatch .exchangeMatch
    refine ⟨.head key, body, rfl, ?_, ⟨?_, hbody⟩, hlegible⟩
    · rw [hchars, PartShape.chars, List.append_assoc, hkeychars,
        afterPrefix?_eq_some_iff.1 hhead]
    · intro k hk
      simpa [IsKey] using hkeys k hk
  · obtain ⟨rest, hbodyWord, h⟩ := Option.bind_eq_some_iff.1 h
    obtain ⟨⟨body, a⟩, hmatch, h⟩ := Option.bind_eq_some_iff.1 h
    cases h
    obtain ⟨hchars, hbody, hlegible⟩ := chars_of_readMatch hmatch .exchangeMatch
    refine ⟨.body, body, rfl, ?_, ⟨trivial, hbody⟩, hlegible⟩
    rw [hchars, PartShape.chars, afterPrefix?_eq_some_iff.1 hbodyWord]

/-- A variable source and the action behind it are the text. -/
theorem chars_of_readVariable {cs : List Char} {source : SourceShape}
    {action : Option ActionShape} (h : readVariable cs = some (source, action)) :
    source.layout.chars ++ actionChars action = cs ∧ source.Legible ∧ ∀ a ∈ action, a.Legible := by
  have hscope := chars_readScope cs .variableChapter .variableBounds
  have hup := chars_readFlag '^' (readScope cs).2
  unfold readVariable at h
  rcases hsign : readScope cs with ⟨scope, behindScope⟩
  rcases hflag : readFlag '^' behindScope with ⟨up, behindUp⟩
  simp only [hsign, hflag] at h hscope hup
  obtain ⟨rest, hword, h⟩ := Option.bind_eq_some_iff.1 h
  obtain ⟨⟨name, behind⟩, hname, h⟩ := Option.bind_eq_some_iff.1 h
  obtain ⟨⟨body, a⟩, hmatch, h⟩ := Option.bind_eq_some_iff.1 h
  cases h
  obtain ⟨hnamechars, hnames⟩ := chars_of_readKey hname .variableName
  obtain ⟨hchars, hbody, hlegible⟩ := chars_of_readMatch hmatch .variableMatch
  refine ⟨?_, ⟨fun n hn => (hnames n hn).1, hbody⟩, hlegible⟩
  simp only [SourceShape.layout, chars_part, chars_append, chars_onlyIf, chars_leaf, chars_text,
    List.append_assoc]
  rw [hchars, hnamechars, ← afterPrefix?_eq_some_iff.1 hword, hup, hscope]

/-- A use count source and the action behind it are the text. -/
theorem chars_of_readUses {cs : List Char} {source : SourceShape} {action : Option ActionShape}
    (h : readUses cs = some (source, action)) :
    source.layout.chars ++ actionChars action = cs ∧ source.Legible ∧ ∀ a ∈ action, a.Legible := by
  unfold readUses at h
  obtain ⟨rest, hword, h⟩ := Option.bind_eq_some_iff.1 h
  obtain ⟨⟨chapter, behind⟩, hchapter, h⟩ := Option.bind_eq_some_iff.1 h
  obtain ⟨⟨condition, a⟩, hcondition, h⟩ := Option.bind_eq_some_iff.1 h
  cases h
  obtain ⟨hchapterchars, hchapters⟩ := chars_of_readKey hchapter .usesChapter
  obtain ⟨hchars, hconditions, hlegible⟩ := chars_of_readCondition hcondition .usesCondition
  refine ⟨?_, ⟨fun c hc => by simpa [IsKey] using hchapters c hc, hconditions⟩, hlegible⟩
  simp only [SourceShape.layout, chars_part, chars_append, chars_text, List.append_assoc]
  rw [hchars, hchapterchars, ← afterPrefix?_eq_some_iff.1 hword]

/-- A source of any kind and the action behind it are the text. -/
theorem chars_of_readSource {cs : List Char} {source : SourceShape} {action : Option ActionShape}
    (h : readSource cs = some (source, action)) :
    source.layout.chars ++ actionChars action = cs ∧ source.Legible ∧ ∀ a ∈ action, a.Legible := by
  unfold readSource at h
  split at h
  · rename_i rest hword
    obtain ⟨part, body, rfl, hchars, hlegible⟩ := chars_of_readExchange h
    refine ⟨?_, hlegible⟩
    rw [afterPrefix?_eq_some_iff.1 hword, ← hchars]
    cases part <;> simp [SourceShape.layout, PartShape.chars]
  · split at h
    · rename_i rest hword
      obtain ⟨part, body, rfl, hchars, hlegible⟩ := chars_of_readExchange h
      refine ⟨?_, hlegible⟩
      rw [afterPrefix?_eq_some_iff.1 hword, ← hchars]
      cases part <;> simp [SourceShape.layout, PartShape.chars]
    · cases hvariable : readVariable cs with
      | some found =>
        rw [hvariable] at h
        cases h
        exact chars_of_readVariable hvariable
      | none =>
        rw [hvariable] at h
        exact chars_of_readUses h

/-- A line that is read is the text of its shape, which is legible. -/
theorem Shape.chars_of_read? {line : List Char} {shape : Shape}
    (h : Shape.read? line = some shape) : shape.chars = line ∧ shape.Legible := by
  have hgate := chars_readGate line
  unfold Shape.read? at h
  rcases hread : readGate line with ⟨gate, rest⟩
  simp only [hread] at h hgate
  obtain ⟨⟨source, action⟩, hsource, rfl⟩ := Option.map_eq_some_iff.1 h
  obtain ⟨hchars, hlegible, hactions⟩ := chars_of_readSource hsource
  refine ⟨?_, hlegible, hactions⟩
  rw [Shape.chars, Shape.layout, chars_append, chars_append, List.append_assoc]
  rw [actionChars] at hchars
  rw [hchars, hgate]

end Playback
