import Playback.Proofs.Command.Ends
import Playback.Proofs.Endpoint.Routing
import Playback.Proofs.Json.ReadBack
import Playback.Proofs.Text.Blank
import Playback.Proofs.Text.Cut

/-!
# Piped commands

Command lines that are piped in, each in a row of its own between blanks, with rows of blanks
between them, are checked as they stand. The input is not taken for a JSON object since no command
line starts with a brace, and trimming a row leaves its line since no command line starts or ends
with a blank.
-/

namespace Playback

open Text

namespace Text

/-! ## Trimming the lines of a text -/

/-- What trimming leaves of a text, unless it is nothing. -/
def trimmedRow (row : List Char) : List (List Char) :=
  [trimChars row].filter (!·.isEmpty)

/-- The lines of a text without the blanks around them; lines without characters are left out. -/
def trimmedLines (cs : List Char) : List (List Char) :=
  ((lines cs).map trimChars).filter (!·.isEmpty)

/-- A row that ends with a line feed is trimmed before the other ones. -/
theorem trimmedLines_append_cons {row : List Char} (h : '\n' ∉ row) (rest : List Char) :
    trimmedLines (row ++ '\n' :: rest) = trimmedRow row ++ trimmedLines rest := by
  have htrim : trimChars (if row.getLast? = some '\r' then row.dropLast else row) =
      trimChars row := by
    split
    · next hreturn =>
      obtain ⟨cs, rfl⟩ := List.getLast?_eq_some_iff.1 hreturn
      rw [List.dropLast_concat, trimChars_concat (by decide)]
    · rfl
  rw [trimmedLines, lines_append_cons h, List.map_cons, htrim, ← List.singleton_append,
    List.filter_append]
  rfl

/-- A text without line feeds is trimmed as a row. -/
theorem trimmedLines_of_not_mem {row : List Char} (h : '\n' ∉ row) :
    trimmedLines row = trimmedRow row := by
  by_cases hne : row = []
  · rw [hne]
    rfl
  · rw [trimmedLines, lines_eq_singleton h hne]
    rfl

end Text

/-! ## Rows of an input -/

/-- Blanks within a row. -/
def IsMargin (cs : List Char) : Prop :=
  ∀ c ∈ cs, isBlank c = true ∧ c ≠ '\n'

instance (cs : List Char) : Decidable (IsMargin cs) :=
  decidable_of_iff (cs.all fun c => isBlank c && c != '\n') (by simp [IsMargin])

/-- A row of an input: a line between blanks, or blanks alone. -/
inductive Row : List String → List Char → Prop where
  /-- Blanks alone. -/
  | blank {cs : List Char} (h : IsMargin cs) : Row [] cs
  /-- A line between blanks. -/
  | line {before behind : List Char} (hbefore : IsMargin before) (hbehind : IsMargin behind)
      (line : String) : Row [line] (before ++ line.toList ++ behind)

/-- An input of rows. Each row but the last one ends with a line feed, which may follow a carriage
return; the last row is empty when the input ends with a line end. -/
inductive Piped : List String → List Char → Prop where
  /-- The last row. -/
  | last {lines : List String} {cs : List Char} (h : Row lines cs) : Piped lines cs
  /-- A row that is followed by other ones. -/
  | more {first lines : List String} {cs ending rest : List Char} (h : Row first cs)
      (hending : ending = ['\n'] ∨ ending = ['\r', '\n']) (hrest : Piped lines rest) :
      Piped (first ++ lines) (cs ++ ending ++ rest)

/-- A line in one row that neither starts nor ends with a blank. -/
structure IsTrimmed (line : String) : Prop where
  /-- It has no line feed. -/
  oneRow : '\n' ∉ line.toList
  /-- It starts with a character that is not blank. -/
  starts : ∃ c, line.toList.head? = some c ∧ isBlank c = false
  /-- It ends with a character that is not blank. -/
  ends : EndsPlain line.toList

namespace Row

variable {first : List String} {cs : List Char}

/-- A carriage return behind a row belongs to its blanks. -/
theorem concat_return (h : Row first cs) : Row first (cs ++ ['\r']) := by
  have hreturn {ds : List Char} (hds : IsMargin ds) : IsMargin (ds ++ ['\r']) := by
    intro c hc
    rcases List.mem_append.1 hc with hmem | hmem
    · exact hds c hmem
    · rw [List.mem_singleton.1 hmem]
      decide
  cases h with
  | blank h => exact .blank (hreturn h)
  | line hbefore hbehind line =>
    rw [List.append_assoc]
    exact .line hbefore (hreturn hbehind) line

/-- A row has no line feed. -/
theorem not_mem (h : Row first cs) (hlines : ∀ line ∈ first, IsTrimmed line) : '\n' ∉ cs := by
  have hmargin {ds : List Char} (hds : IsMargin ds) : '\n' ∉ ds := fun hmem => (hds _ hmem).2 rfl
  cases h with
  | blank h => exact hmargin h
  | line hbefore hbehind line =>
    have hline := (hlines line List.mem_cons_self).oneRow
    simp [hmargin hbefore, hmargin hbehind, hline]

/-- Trimming a row leaves its line. -/
theorem trimmedRow_eq (h : Row first cs) (hlines : ∀ line ∈ first, IsTrimmed line) :
    trimmedRow cs = first.map String.toList := by
  cases h with
  | blank h =>
    rw [trimmedRow, trimChars_eq_nil fun c hc => (h c hc).1]
    rfl
  | @line before behind hbefore hbehind line =>
    obtain ⟨-, hstarts, hends⟩ := hlines line List.mem_cons_self
    have hne : line.toList ≠ [] := by
      intro hnil
      obtain ⟨c, hhead, -⟩ := hstarts
      rw [hnil] at hhead
      cases hhead
    have htrim : trimChars (before ++ line.toList ++ behind) = line.toList :=
      trimChars_append hne (fun c hc => (hbefore c hc).1) (fun c hc => (hbehind c hc).1)
        (isBlank_of_mem hstarts) (isBlank_of_mem hends)
    rw [trimmedRow, htrim]
    simp [hne]

/-- Apart from blanks, a text begins as the line of its first row begins, if that row has one. -/
theorem head?_dropWhile (h : Row first cs) (hlines : ∀ line ∈ first, IsTrimmed line)
    (rest : List Char) :
    ((cs ++ rest).dropWhile isBlank).head? =
      (first.head?.bind (·.toList.head?)).or (rest.dropWhile isBlank).head? := by
  cases h with
  | blank h =>
    rw [List.dropWhile_append_of_pos fun c hc => (h c hc).1]
    rfl
  | @line before behind hbefore hbehind line =>
    obtain ⟨c, hhead, hc⟩ := (hlines line List.mem_cons_self).starts
    have hstart : (line.toList ++ (behind ++ rest)).head? = some c := by
      rw [List.head?_append, hhead, Option.some_or]
    have hdrop : (before ++ (line.toList ++ (behind ++ rest))).dropWhile isBlank =
        line.toList ++ (behind ++ rest) :=
      dropWhile_append_of_blank (fun c hc => (hbefore c hc).1) (isBlank_of_mem ⟨c, hstart, hc⟩)
    rw [List.append_assoc, List.append_assoc, hdrop, hstart]
    simp [hhead]

end Row

namespace Piped

variable {lines : List String} {input : List Char}

/-- Trimming the rows of an input leaves its lines. -/
theorem trimmedLines_eq (h : Piped lines input) (hlines : ∀ line ∈ lines, IsTrimmed line) :
    trimmedLines input = lines.map String.toList := by
  induction h with
  | last h => rw [trimmedLines_of_not_mem (h.not_mem hlines), h.trimmedRow_eq hlines]
  | @more first lines cs ending rest h hending hrest ih =>
    obtain ⟨hfirst, hothers⟩ := List.forall_mem_append.1 hlines
    have hrow {row : List Char} (hrow : Row first row) :
        trimmedLines (row ++ '\n' :: rest) = (first ++ lines).map String.toList := by
      rw [trimmedLines_append_cons (hrow.not_mem hfirst), hrow.trimmedRow_eq hfirst, ih hothers,
        List.map_append]
    rcases hending with rfl | rfl
    · rw [List.append_assoc]
      exact hrow h
    · rw [← List.singleton_append, ← List.append_assoc cs, List.append_assoc]
      exact hrow h.concat_return

/-- Apart from blanks, an input begins as its first line begins. -/
theorem head?_dropWhile (h : Piped lines input) (hlines : ∀ line ∈ lines, IsTrimmed line) :
    (input.dropWhile isBlank).head? = lines.head?.bind (·.toList.head?) := by
  induction h with
  | last h =>
    have hhead := h.head?_dropWhile hlines []
    rwa [List.append_nil, List.dropWhile_nil, List.head?_nil, Option.or_none] at hhead
  | @more first lines cs ending rest h hending hrest ih =>
    obtain ⟨hfirst, hothers⟩ := List.forall_mem_append.1 hlines
    have hblank : ∀ c ∈ ending, isBlank c = true := by
      rw [← List.all_eq_true]
      rcases hending with rfl | rfl <;> rfl
    rw [List.append_assoc, h.head?_dropWhile hfirst, List.dropWhile_append_of_pos hblank,
      ih hothers]
    cases h with
    | blank => rfl
    | line hbefore hbehind line =>
      obtain ⟨c, hhead, -⟩ := (hfirst line List.mem_cons_self).starts
      simp [hhead]

end Piped

/-! ## Routing an input -/

/-- A line that is read as a command is trimmed. -/
theorem Command.isTrimmed_of_read {line : String} {c : Command} (hfeed : '\n' ∉ line.toList)
    (h : Command.read line = .ok c) : IsTrimmed line := by
  obtain ⟨⟨d, hd, hhead⟩, hends⟩ := Command.ends_of_read h
  have hplain : ∀ d ∈ firstChars, isBlank d = false := by simp [firstChars, isBlank]
  exact ⟨hfeed, ⟨d, hhead, hplain d hd⟩, hends⟩

/-- Command lines that are piped in are not taken for a JSON object, and are checked as they stand
and in their order. -/
theorem Piped.ofCheck_eq_check {lines : List String} {input : List Char} (hne : lines ≠ [])
    (hfeed : ∀ line ∈ lines, '\n' ∉ line.toList)
    (hread : ∀ line ∈ lines, ∃ c, Command.read line = .ok c) (h : Piped lines input)
    (folder : Folder) :
    (∀ fields, Json.read? (String.ofList input) ≠ some (.object fields)) ∧
      Endpoint.ofCheck ⟨none, none⟩ folder (String.ofList input).toUTF8 = .ok (.check lines) := by
  have hlines : ∀ line ∈ lines, IsTrimmed line := by
    intro line hline
    obtain ⟨c, hc⟩ := hread line hline
    exact Command.isTrimmed_of_read (hfeed line hline) hc
  have hobject : ∀ fields, Json.read? (String.ofList input) ≠ some (.object fields) := by
    intro fields hfields
    have hspace : ∀ c, Json.isSpace c = true → isBlank c = true := by
      intro c hc
      simp only [Json.isSpace, Bool.or_eq_true, beq_iff_eq] at hc
      rcases hc with ((rfl | rfl) | rfl) | rfl <;> decide
    have hbrace := head?_dropWhile_isBlank hspace (by decide) (Json.head?_of_read?_object hfields)
    obtain ⟨line, others, rfl⟩ := List.exists_cons_of_ne_nil hne
    obtain ⟨c, hc⟩ := hread line List.mem_cons_self
    obtain ⟨⟨d, hd, hhead⟩, -⟩ := Command.ends_of_read hc
    rw [String.toList_ofList, h.head?_dropWhile hlines, List.head?_cons, Option.bind_some, hhead]
      at hbrace
    rw [Option.some.inj hbrace] at hd
    exact absurd hd (by decide)
  have hcommands : commandLines (String.ofList input) = lines := by
    change (trimmedLines (String.ofList input).toList).map String.ofList = lines
    rw [String.toList_ofList, h.trimmedLines_eq hlines, List.map_map]
    simp
  have hrouted : CheckArguments.Routed folder (String.ofList input).toUTF8 ⟨none, none⟩
      (commandLines (String.ofList input)) := .rows rfl hobject (by rwa [hcommands])
  rw [hcommands] at hrouted
  exact ⟨hobject, hrouted.ofCheck_eq⟩

/-- A command line with a quote and braces in its body, and an object for its literal. -/
def quotedLine : String :=
  "response:head[Größe]:\x7b\"\x7d\x7d->\x7b\x7b\"command\": 1\x7d"

/-- A command line with blanks and a carriage return in its body. -/
def returnLine : String :=
  "!%var[a]:\x7b \"\r \x7d->&n#_#"

/-- An input of these lines in rows with blanks around them. A row of blanks stands between them,
the rows end in different ways, and the last one has no end. -/
def pipedText : String :=
  "\u2003\t" ++ quotedLine ++ " \r\n\u00a0\n " ++ returnLine ++ "\t"

/-- The two lines are checked as they stand. -/
theorem Piped.ofCheck_pipedText :
    (∀ line ∈ [quotedLine, returnLine], '\n' ∉ line.toList) ∧
      (∀ line ∈ [quotedLine, returnLine], ∃ c, Command.read line = .ok c) ∧
      Piped [quotedLine, returnLine] pipedText.toList ∧
      Endpoint.ofCheck ⟨none, none⟩ ⟨"/", fun _ => none⟩ pipedText.toUTF8 =
        .ok (.check [quotedLine, returnLine]) := by
  have hfeed : ∀ line ∈ [quotedLine, returnLine], '\n' ∉ line.toList := by decide
  have hread : ∀ line ∈ [quotedLine, returnLine], ∃ c, Command.read line = .ok c := by
    have hok : ∀ line ∈ [quotedLine, returnLine], (Command.read line).isOk = true := by
      decide +kernel
    intro line hline
    have hline := hok line hline
    cases h : Command.read line with
    | ok c => exact ⟨c, rfl⟩
    | error fault =>
      rw [h] at hline
      cases hline
  have hpiped : Piped [quotedLine, returnLine] pipedText.toList := by
    have hfirst : Row [quotedLine] (['\u2003', '\t'] ++ quotedLine.toList ++ [' ']) :=
      .line (by decide) (by decide) quotedLine
    have hmiddle : Row [] ['\u00a0'] := .blank (by decide)
    have hlast : Row [returnLine] ([' '] ++ returnLine.toList ++ ['\t']) :=
      .line (by decide) (by decide) returnLine
    have hrows := Piped.more hfirst (.inr rfl) (.more hmiddle (.inl rfl) (.last hlast))
    have htext : pipedText.toList =
        ['\u2003', '\t'] ++ quotedLine.toList ++ [' '] ++ ['\r', '\n'] ++
          (['\u00a0'] ++ ['\n'] ++ ([' '] ++ returnLine.toList ++ ['\t'])) := by
      simp [pipedText]
    rw [htext]
    exact hrows
  have hchecked := Piped.ofCheck_eq_check (List.cons_ne_nil _ _) hfeed hread hpiped
    ⟨"/", fun _ => none⟩
  rw [String.ofList_toList] at hchecked
  exact ⟨hfeed, hread, hpiped, hchecked.2⟩

end Playback
