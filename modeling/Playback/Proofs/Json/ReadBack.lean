import Mathlib.Data.List.DropRight
import Playback.Proofs.Json.Scalars

/-!
# Reading back what is printed

A value is read back from its printed form, be it on one line or over several, if its numbers are
integers of 64 bits and its lists and objects lie no deeper than the reader follows them. On one
line it is one line, since line feeds in texts are escaped. In turn a text is read as an object only
if a brace opens it.
-/

namespace Playback.Json

open Text

/-! ## Items -/

/-- What stands before each item of a list or object. -/
def Setting.before : Setting → List Char
  | .compact => []
  | .lines level => newLine (level + 1)

/-- What stands before the closing character of a list or object. -/
def Setting.after : Setting → List Char
  | .compact => []
  | .lines level => newLine level

theorem isSpace_newLine (level : Nat) : ∀ c ∈ newLine level, isSpace c = true := by
  intro c hc
  rcases List.mem_cons.1 hc with rfl | hblank
  · rfl
  · rw [List.eq_of_mem_replicate hblank]
    rfl

theorem Setting.isSpace_before (setting : Setting) : ∀ c ∈ setting.before, isSpace c = true := by
  cases setting with
  | compact => exact List.forall_mem_nil _
  | lines level => exact isSpace_newLine (level + 1)

theorem Setting.isSpace_after (setting : Setting) : ∀ c ∈ setting.after, isSpace c = true := by
  cases setting with
  | compact => exact List.forall_mem_nil _
  | lines level => exact isSpace_newLine level

/-- Items are set between an opening and a closing character with a comma before each but the first.
-/
theorem Setting.enclose_eq (setting : Setting) {opening close : Char} {parts : List (List Char)}
    (hne : parts ≠ []) (behind : List Char) :
    setting.enclose opening close parts ++ behind =
      opening :: (setting.before ++
        (separated (',' :: setting.before) parts ++ (setting.after ++ close :: behind))) := by
  have hsome : parts.isEmpty = false := List.isEmpty_eq_false_iff.2 hne
  cases setting <;> simp [enclose, hsome, before, after]

theorem separated_cons {separator part : List Char} {parts : List (List Char)} (hne : parts ≠ []) :
    separated separator (part :: parts) = part ++ separator ++ separated separator parts := by
  rw [separated]
  exact hne

/-- Items that are written with some character each are no more than the characters. -/
theorem length_le_length_separated {parts : List (List Char)} (hne : ∀ part ∈ parts, part ≠ [])
    (separator : List Char) : parts.length ≤ (separated separator parts).length := by
  induction parts with
  | nil => exact Nat.le_refl 0
  | cons part parts ih =>
    obtain ⟨hfirst, hothers⟩ := List.forall_mem_cons.1 hne
    have hpos : 0 < part.length := List.length_pos_iff.2 hfirst
    have hrest := ih hothers
    cases parts with
    | nil => exact hpos
    | cons next parts =>
      rw [separated_cons (List.cons_ne_nil next parts), List.length_append, List.length_append,
        List.length_cons]
      omega

section Reading

variable {α : Type} {item : List Char → Option (α × List Char)} {close : Char}
  {write : α → List Char} {items : List α}

/-- A reader of items up to a closing character. It skips blanks, and finds no item where the text
ends or that character stands. -/
structure ReadsItems (item : List Char → Option (α × List Char)) (close : Char) : Prop where
  /-- The closing character is that of a list or of an object. -/
  closing : close = ']' ∨ close = '}'
  /-- Blanks before an item are skipped. -/
  blanks (cs : List Char) : item (cs.dropWhile isSpace) = item cs
  /-- There is no item at the end. -/
  ended : item [] = none
  /-- There is no item where the closing character stands. -/
  closed (rest : List Char) : item (close :: rest) = none

/-- What is written is read back, whatever stands behind it that goes on no number. -/
def ReadsBack (item : List Char → Option (α × List Char)) (written : List Char) (a : α) : Prop :=
  ∀ behind, EndsNumber behind → item (written ++ behind) = some (a, behind)

namespace ReadsItems

/-- Blanks before a text make no difference to a reader of items. -/
theorem append (h : ReadsItems item close) {blanks : List Char}
    (hblanks : ∀ c ∈ blanks, isSpace c = true) (cs : List Char) :
    item (blanks ++ cs) = item cs := by
  rw [← h.blanks, List.dropWhile_append_of_pos hblanks, h.blanks]

/-- What a reader of items reads back has characters. -/
theorem ne_nil (h : ReadsItems item close) {written : List Char} {a : α}
    (hread : ReadsBack item written a) : written ≠ [] := by
  rintro rfl
  have hempty := hread [] endsNumber_nil
  rw [List.append_nil, h.ended] at hempty
  cases hempty

/-- Behind blanks the closing character is found. -/
theorem dropWhile_closing (h : ReadsItems item close) {blanks : List Char}
    (hblanks : ∀ c ∈ blanks, isSpace c = true) (behind : List Char) :
    (blanks ++ close :: behind).dropWhile isSpace = close :: behind := by
  rw [List.dropWhile_append_of_pos hblanks]
  rcases h.closing with rfl | rfl <;> rfl

/-- Blanks and the closing character go on no number. -/
theorem endsNumber_closing (h : ReadsItems item close) {blanks : List Char}
    (hblanks : ∀ c ∈ blanks, isSpace c = true) (behind : List Char) :
    EndsNumber (blanks ++ close :: behind) := by
  cases blanks with
  | nil =>
    rintro c ⟨⟩
    rcases h.closing with rfl | rfl <;> decide
  | cons b blanks =>
    rintro c ⟨⟩
    have hblank := hblanks b List.mem_cons_self
    simp only [isSpace, Bool.or_eq_true, beq_iff_eq] at hblank
    rcases hblank with ((rfl | rfl) | rfl) | rfl <;> decide

/-- Items that are read back one by one are read back with commas and blanks between them. -/
theorem readItems_separated (h : ReadsItems item close) (setting : Setting)
    (hread : ∀ a ∈ items, ReadsBack item (write a) a) (hne : items ≠ []) {fuel : Nat}
    (hfuel : items.length ≤ fuel) (behind : List Char) :
    readItems item close fuel (setting.before ++
        (separated (',' :: setting.before) (items.map write) ++
          (setting.after ++ close :: behind))) =
      some (items, behind) := by
  have hend := h.endsNumber_closing setting.isSpace_after behind
  have hfound := h.dropWhile_closing setting.isSpace_after behind
  have hcomma : close ≠ ',' := by rcases h.closing with rfl | rfl <;> decide
  induction items generalizing fuel with
  | nil => exact absurd rfl hne
  | cons a rest ih =>
    obtain ⟨fuel, rfl⟩ := Nat.exists_eq_add_one_of_ne_zero (Nat.ne_of_gt (Nat.zero_lt_of_lt hfuel))
    obtain ⟨hfirst, hothers⟩ := List.forall_mem_cons.1 hread
    cases rest with
    | nil =>
      rw [List.map_cons, List.map_nil, separated, readItems, h.append setting.isSpace_before,
        hfirst _ hend]
      simp [hfound]
    | cons b rest =>
      have hmore := ih hothers (List.cons_ne_nil b rest) (Nat.le_of_succ_le_succ hfuel)
      have hnext : ∀ cs, (',' :: cs).dropWhile isSpace = ',' :: cs := fun _ => rfl
      have hgoes : ∀ cs, EndsNumber (',' :: cs) := by
        rintro cs c ⟨⟩
        decide
      have hparts : (b :: rest).map write ≠ [] := List.cons_ne_nil _ _
      rw [List.map_cons, separated_cons hparts, List.append_assoc, List.append_assoc,
        List.cons_append, readItems, h.append setting.isSpace_before, hfirst _ (hgoes _)]
      simp only [Option.bind_eq_bind, Option.bind_some, hnext, hmore]
      rfl

/-- Items are read from the first one on where one is found. -/
theorem readAnyItems_eq (h : ReadsItems item close) {cs behind : List Char}
    (hread : readItems item close (cs.length + 1) cs = some (items, behind)) :
    readAnyItems item close cs = some (items, behind) := by
  have hsame : readItems item close (cs.length + 1) (cs.dropWhile isSpace) =
      some (items, behind) := by
    simp only [readItems, h.blanks] at hread ⊢
    exact hread
  rw [readAnyItems]
  split
  · next hnone =>
    rw [hnone, readItems, h.ended] at hsame
    cases hsame
  · next c rest hsome =>
    rw [hsome] at hsame
    split_ifs with hc
    · rw [hc, readItems, h.closed] at hsame
      cases hsame
    · exact hsame

/-- The items of a list or object are read back in any setting. -/
theorem readAnyItems_enclose (h : ReadsItems item close) (setting : Setting) (opening : Char)
    (hread : ∀ a ∈ items, ReadsBack item (write a) a) (behind : List Char) :
    ∃ inside, setting.enclose opening close (items.map write) ++ behind = opening :: inside ∧
      readAnyItems item close inside = some (items, behind) := by
  by_cases hne : items = []
  · subst hne
    refine ⟨close :: behind, rfl, ?_⟩
    rw [readAnyItems]
    rcases h.closing with rfl | rfl <;> rfl
  · have hlength : items.length ≤ (separated (',' :: setting.before) (items.map write)).length := by
      have hparts : ∀ part ∈ items.map write, part ≠ [] := by
        intro part hpart
        obtain ⟨a, ha, rfl⟩ := List.mem_map.1 hpart
        exact h.ne_nil (hread a ha)
      have hitems := length_le_length_separated hparts (',' :: setting.before)
      rwa [List.length_map] at hitems
    refine ⟨_, setting.enclose_eq (by simpa using hne) behind, ?_⟩
    refine h.readAnyItems_eq (h.readItems_separated setting hread hne ?_ behind)
    simp only [List.length_append]
    omega

end ReadsItems

end Reading

/-! ## Values -/

/-- A value fits in what a reader reads with a depth: its numbers are integers of 64 bits, with or
without a sign, and its lists and objects lie less than so deep. -/
inductive Fits : (depth : Nat) → Json → Prop where
  /-- The null value. -/
  | null {depth : Nat} : Fits (depth + 1) .null
  /-- A truth value. -/
  | bool {depth : Nat} (b : Bool) : Fits (depth + 1) (.bool b)
  /-- An integer of 64 bits. -/
  | integer {depth : Nat} {n : Int} (hlow : -(Nat.pow 2 63 : Int) ≤ n)
    (hhigh : n < (Nat.pow 2 64 : Int)) : Fits (depth + 1) (.integer n)
  /-- A text. -/
  | text {depth : Nat} (s : String) : Fits (depth + 1) (.text s)
  /-- A list. -/
  | list {depth : Nat} {items : List Json} (h : ∀ item ∈ items, Fits (depth + 1) item) :
    Fits (depth + 2) (.list items)
  /-- An object. -/
  | object {depth : Nat} {fields : List (String × Json)}
    (h : ∀ field ∈ fields, Fits (depth + 1) field.2) : Fits (depth + 2) (.object fields)

attribute [simp] Fits.null Fits.bool Fits.text

/-- The characters of a field. -/
def fieldText (setting : Setting) (field : String × Json) : List Char :=
  quoted field.1 ++ setting.colon ++ field.2.chars setting

theorem itemChars_eq_map (setting : Setting) (items : List Json) :
    itemChars setting items = items.map (chars setting) := by
  induction items with
  | nil => rw [itemChars, List.map_nil]
  | cons item items ih => rw [itemChars, ih, List.map_cons]

theorem fieldChars_eq_map (setting : Setting) (fields : List (String × Json)) :
    fieldChars setting fields = fields.map (fieldText setting) := by
  induction fields with
  | nil => rw [fieldChars, List.map_nil]
  | cons field fields ih => rw [fieldChars, ih, List.map_cons, fieldText]

/-- Values are read as items of a list. -/
theorem readsItems_readValue (depth : Nat) : ReadsItems (readValue (depth + 1)) ']' := by
  constructor
  · exact .inl rfl
  · intro cs
    rw [readValue, readValue, List.dropWhile_idempotent]
  · rfl
  · intro rest
    rfl

/-- Fields are read as items of an object. -/
theorem readsItems_readField (value : List Char → Option (Json × List Char)) :
    ReadsItems (readField value) '}' := by
  constructor
  · exact .inr rfl
  · intro cs
    rw [readField, readField, List.dropWhile_idempotent]
  · rfl
  · intro rest
    rfl

/-- A value that begins with a digit is read as a number. -/
theorem readValue_digit {c : Char} (h : isDigit c = true) (depth : Nat) (rest : List Char) :
    readValue (depth + 1) (c :: rest) = readMagnitude false (c :: rest) := by
  have hspace : isSpace c = false := by
    by_contra hblank
    simp only [isSpace, Bool.not_eq_false, Bool.or_eq_true, beq_iff_eq] at hblank
    rcases hblank with ((rfl | rfl) | rfl) | rfl <;> cases h
  rw [readValue, List.dropWhile_cons_of_neg (by simp [hspace])]
  split
  case h_8 => rfl
  all_goals
    next heq =>
      cases heq
      cases h

/-- An integer of 64 bits is read back. -/
theorem readsBack_intDigits {n : Int} (hlow : -(Nat.pow 2 63 : Int) ≤ n)
    (hhigh : n < (Nat.pow 2 64 : Int)) (depth : Nat) :
    ReadsBack (readValue (depth + 1)) (intDigits n) (.integer n) := by
  intro behind hbehind
  cases n with
  | ofNat n =>
    have hfits : n < Nat.pow 2 64 := Int.ofNat_lt.1 hhigh
    obtain ⟨c, cs, hcs, hdigit⟩ := exists_natDigits_eq_cons n
    have hmagnitude := readMagnitude_natDigits false hfits hbehind
    rw [intDigits, hcs, List.cons_append, readValue_digit hdigit, ← List.cons_append, ← hcs,
      hmagnitude]
    rfl
  | negSucc n =>
    have hbound : n + 1 ≤ Nat.pow 2 63 := by omega
    have hfits : n + 1 < Nat.pow 2 64 := Nat.lt_of_le_of_lt hbound (by decide)
    have hmagnitude := readMagnitude_natDigits true hfits hbehind
    have hsmall : ¬ (n + 1 = 0 ∨ Nat.pow 2 63 < n + 1) := by omega
    rw [if_pos rfl, if_neg hsmall] at hmagnitude
    exact hmagnitude

/-- A text is read back. -/
theorem readsBack_quoted (s : String) (depth : Nat) :
    ReadsBack (readValue (depth + 1)) (quoted s) (.text s) := by
  intro behind _
  have hread := readText_length s.toList behind
  have hspace : ∀ cs, ('"' :: cs).dropWhile isSpace = '"' :: cs := fun _ => rfl
  have hquoted : readValue (depth + 1) (quoted s ++ behind) =
      (readText ((s.toList.flatMap escapeChar ++ '"' :: behind).length + 1)
        (s.toList.flatMap escapeChar ++ '"' :: behind)).map fun read =>
          (.text (String.ofList read.1), read.2) := by
    rw [quoted_append, readValue, hspace]
    rfl
  rw [hquoted, hread]
  simp only [Option.map_some, String.ofList_toList]

/-- A field is read back if its value is. -/
theorem readsBack_fieldText {value : List Char → Option (Json × List Char)}
    (hblanks : ∀ cs, value (cs.dropWhile isSpace) = value cs) {setting : Setting}
    {field : String × Json} (h : ReadsBack value (field.2.chars setting) field.2) :
    ReadsBack (readField value) (fieldText setting field) field := by
  intro behind hbehind
  have hread := readText_length field.1.toList
    (setting.colon ++ (field.2.chars setting ++ behind))
  have hvalue : ∃ rest, setting.colon ++ (field.2.chars setting ++ behind) = ':' :: rest ∧
      value rest = some (field.2, behind) := by
    cases setting with
    | compact => exact ⟨_, rfl, h behind hbehind⟩
    | lines level =>
      have hblank : (' ' :: (field.2.chars (.lines level) ++ behind)).dropWhile isSpace =
          (field.2.chars (.lines level) ++ behind).dropWhile isSpace := rfl
      refine ⟨_, rfl, ?_⟩
      change value (' ' :: (field.2.chars (.lines level) ++ behind)) = _
      rw [← hblanks, hblank, hblanks]
      exact h behind hbehind
  obtain ⟨rest, hcolon, hrest⟩ := hvalue
  have hquote : ∀ cs, ('"' :: cs).dropWhile isSpace = '"' :: cs := fun _ => rfl
  have hfound : ∀ cs, (':' :: cs).dropWhile isSpace = ':' :: cs := fun _ => rfl
  rw [hcolon] at hread
  rw [fieldText, List.append_assoc, List.append_assoc, hcolon, quoted_append, readField, hquote]
  simp only [hread, Option.bind_eq_bind, Option.bind_some, hfound, hrest, String.ofList_toList]
  rfl

/-- A value is read back from its printed form in any setting. -/
theorem Fits.readsBack {depth : Nat} {value : Json} (h : Fits depth value) (setting : Setting) :
    ReadsBack (readValue depth) (value.chars setting) value := by
  induction h generalizing setting with
  | null =>
    intro behind _
    rw [chars]
    rfl
  | bool b =>
    intro behind _
    rw [chars]
    cases b <;> rfl
  | integer hlow hhigh =>
    rw [chars]
    exact readsBack_intDigits hlow hhigh _
  | text s =>
    rw [chars]
    exact readsBack_quoted s _
  | @list depth items _ ih =>
    intro behind _
    obtain ⟨inside, hchars, hread⟩ := (readsItems_readValue depth).readAnyItems_enclose setting
      '[' (fun item hitem => ih item hitem setting.inner) behind
    have hvalue : readValue (depth + 2) ('[' :: inside) =
        (readAnyItems (readValue (depth + 1)) ']' inside).map fun read =>
          (.list read.1, read.2) := rfl
    rw [chars, itemChars_eq_map, hchars, hvalue, hread]
    rfl
  | @object depth fields _ ih =>
    intro behind _
    have hfields : ∀ field ∈ fields, ReadsBack (readField (readValue (depth + 1)))
        (fieldText setting.inner field) field := fun field hfield =>
      readsBack_fieldText (readsItems_readValue depth).blanks (ih field hfield setting.inner)
    obtain ⟨inside, hchars, hread⟩ := (readsItems_readField _).readAnyItems_enclose setting
      '{' hfields behind
    have hvalue : readValue (depth + 2) ('{' :: inside) =
        (readAnyItems (readField (readValue (depth + 1))) '}' inside).map fun read =>
          (.object read.1, read.2) := rfl
    rw [chars, fieldChars_eq_map, hchars, hvalue, hread]
    rfl

/-- A value is read back from its printed form over several lines. -/
theorem read?_pretty {value : Json} (h : Fits 128 value) : read? value.pretty = some value := by
  have hread := h.readsBack (.lines 0) [] endsNumber_nil
  rw [List.append_nil] at hread
  rw [read?, pretty, String.toList_ofList, hread]
  rfl

/-- A value is read back from its printed form on one line. -/
theorem read?_compact {value : Json} (h : Fits 128 value) : read? value.compact = some value := by
  have hread := h.readsBack .compact [] endsNumber_nil
  rw [List.append_nil] at hread
  rw [read?, compact, String.toList_ofList, hread]
  rfl

/-! ## One line -/

/-- Texts on one line with separators on one line between them are on one line. -/
theorem not_mem_separated {parts : List (List Char)} (h : ∀ part ∈ parts, '\n' ∉ part)
    (separator : List Char) (hsep : '\n' ∉ separator) :
    '\n' ∉ separated separator parts := by
  induction parts with
  | nil => exact List.not_mem_nil
  | cons part parts ih =>
    obtain ⟨hfirst, hothers⟩ := List.forall_mem_cons.1 h
    cases parts with
    | nil => exact hfirst
    | cons next parts =>
      rw [separated_cons (List.cons_ne_nil next parts), List.mem_append, List.mem_append]
      rintro ((hmem | hmem) | hmem)
      · exact hfirst hmem
      · exact hsep hmem
      · exact ih hothers hmem

/-- A list or object stands on one line if its items do. -/
theorem not_mem_enclose {opening closing : Char} (hopening : opening ≠ '\n')
    (hclosing : closing ≠ '\n') {parts : List (List Char)} (h : ∀ part ∈ parts, '\n' ∉ part) :
    '\n' ∉ Setting.compact.enclose opening closing parts := by
  have hparts := not_mem_separated h [','] (by decide)
  rw [Setting.enclose]
  split <;> simp [hopening.symm, hclosing.symm, hparts]

/-- A value is printed on one line. -/
theorem Fits.not_mem_chars {depth : Nat} {value : Json} (h : Fits depth value) :
    '\n' ∉ value.chars .compact := by
  induction h with
  | null =>
    rw [chars]
    decide
  | bool b =>
    rw [chars]
    cases b <;> decide
  | @integer _ n _ _ =>
    rw [chars]
    exact not_mem_intDigits n
  | text s =>
    rw [chars]
    exact not_mem_quoted s
  | list _ ih =>
    rw [chars, itemChars_eq_map]
    refine not_mem_enclose (by decide) (by decide) fun part hpart => ?_
    obtain ⟨item, hitem, rfl⟩ := List.mem_map.1 hpart
    exact ih item hitem
  | object _ ih =>
    rw [chars, fieldChars_eq_map]
    refine not_mem_enclose (by decide) (by decide) fun part hpart => ?_
    obtain ⟨field, hfield, rfl⟩ := List.mem_map.1 hpart
    have hname := not_mem_quoted field.1
    have hvalue : '\n' ∉ field.2.chars .compact := ih field hfield
    change '\n' ∉ fieldText .compact field
    simp [fieldText, Setting.colon, hname, hvalue]

theorem not_mem_compact {depth : Nat} {value : Json} (h : Fits depth value) :
    '\n' ∉ value.compact.toList := by
  rw [compact, String.toList_ofList]
  exact h.not_mem_chars

/-! ## Objects begin with a brace -/

/-- A number is no object. -/
theorem readMagnitude_ne_object {negative : Bool} {cs rest : List Char}
    {fields : List (String × Json)} :
    readMagnitude negative cs ≠ some (.object fields, rest) := by
  intro h
  simp only [readMagnitude, Option.bind_eq_bind, Option.pure_def, Option.bind_none] at h
  repeat' split at h
  all_goals simp [Option.bind_eq_some_iff] at h

/-- A value that is read as an object begins with a brace, apart from blanks. -/
theorem head?_of_readValue_object {depth : Nat} {cs rest : List Char}
    {fields : List (String × Json)}
    (h : readValue (depth + 1) cs = some (.object fields, rest)) :
    (cs.dropWhile isSpace).head? = some '{' := by
  rw [readValue] at h
  split at h
  · cases h
  · cases h
  · cases h
  · obtain ⟨_, -, hvalue⟩ := Option.map_eq_some_iff.1 h
    cases hvalue
  · split_ifs at h
    obtain ⟨_, -, hvalue⟩ := Option.map_eq_some_iff.1 h
    cases hvalue
  · next hbrace => rw [hbrace, List.head?_cons]
  · exact absurd h readMagnitude_ne_object
  · exact absurd h readMagnitude_ne_object

/-- A text that is read as an object begins with a brace, apart from blanks. -/
theorem head?_of_read?_object {s : String} {fields : List (String × Json)}
    (h : read? s = some (.object fields)) : (s.toList.dropWhile isSpace).head? = some '{' := by
  unfold read? at h
  split at h
  · next value rest hvalue =>
    split_ifs at h
    cases h
    exact head?_of_readValue_object hvalue
  · cases h

end Playback.Json
