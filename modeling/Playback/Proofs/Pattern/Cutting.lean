import Playback.Pattern.Basic
import Playback.Proofs.Pattern.Search

/-!
# Cutting a text at the matches of a pattern

The matches of a pattern are met one after the other: each search starts where the match before it
has ended, and the last one finds nothing. The matches and the gaps between them make up the text,
and replacing the matches keeps the gaps.
-/

namespace Playback.Pattern

/-- The pieces of one text after the other, with a text in place of each match. -/
def Cutting.join (c : Cutting) (written : Match → String) : String :=
  String.join (c.pieces.map fun piece => piece.gap ++ written piece.found) ++ c.tail

/-- How a search cuts a text that follows the character `before`, where `ended` says whether a match
ended there: at its next match, and then what is behind this match, until there is none. -/
inductive Cuts (search : Option Char → List Char → Option Hit) :
    Option Char → Bool → List Char → Cutting → Prop where
  /-- The search finds nothing, and the text is all tail. -/
  | done {before : Option Char} {ended : Bool} {text : List Char}
      (hnone : nextHit? search before ended text = none) :
    Cuts search before ended text ⟨[], String.ofList text⟩
  /-- The search finds a match behind a gap. -/
  | more {before : Option Char} {ended : Bool} {gap whole rest : List Char}
      {groups : List (Option String)} {further : Cutting}
      (hnext : nextHit? search before ended (gap ++ whole ++ rest) =
        some ⟨gap.length, whole.length, groups⟩)
      (hrest : Cuts search ((gap ++ whole).getLast? <|> before) true rest further) :
    Cuts search before ended (gap ++ whole ++ rest)
      ⟨⟨String.ofList gap, ⟨String.ofList whole, groups⟩⟩ :: further.pieces, further.tail⟩

/-- A pattern cuts a text from its start on. -/
def CutsInto (p : Pattern) (text : String) (c : Cutting) : Prop :=
  Cuts (searchProgram p.tree.program p.groupCount) none false text.toList c

/-! ## The text in its pieces -/

theorem Cutting.join_cons (piece : Piece) (pieces : List Piece) (tail : String)
    (written : Match → String) :
    Cutting.join ⟨piece :: pieces, tail⟩ written =
      piece.gap ++ written piece.found ++ Cutting.join ⟨pieces, tail⟩ written := by
  simp only [join, List.map_cons, String.join_cons, String.append_assoc]

theorem Cutting.join_of_pieces_eq_nil {c : Cutting} (h : c.pieces = [])
    (first second : Match → String) : c.join first = c.join second := by
  rw [join, join, h, List.map_nil, List.map_nil]

/-- The gaps and the matches are the text. -/
theorem Cuts.join_eq {search : Option Char → List Char → Option Hit} {before : Option Char}
    {ended : Bool} {text : List Char} {c : Cutting} (h : Cuts search before ended text c) :
    c.join (·.whole) = String.ofList text := by
  induction h with
  | done hnone => simp [Cutting.join]
  | more hnext hrest ih => rw [Cutting.join_cons, ih, String.ofList_append, String.ofList_append]

/-- To replace all matches is to write the replacements between the gaps. -/
theorem replaceAll_eq (p : Pattern) (text : String) (replacement : Match → String) :
    p.replaceAll text replacement = (p.cut text).join replacement := by
  rw [replaceAll]
  generalize p.cut text = c
  obtain ⟨pieces, tail⟩ := c
  induction pieces with
  | nil => simp [Cutting.join]
  | cons piece pieces ih => rw [Cutting.join_cons, ← ih, List.foldr_cons]

/-! ## Enough steps -/

/-- A text has a first part and one behind it of any lengths that it reaches. -/
theorem exists_parts {text : List α} {m n : Nat} (h : m + n ≤ text.length) :
    ∃ first second rest, text = first ++ second ++ rest ∧ first.length = m ∧ second.length = n := by
  refine ⟨text.take m, (text.drop m).take n, text.drop (m + n), ?_, ?_, ?_⟩
  · rw [← List.take_add, List.take_append_drop]
  · rw [List.length_take]
    omega
  · rw [List.length_take, List.length_drop]
    omega

section Steps

variable {search : Option Char → List Char → Option Hit}
  (hsearch : ∀ before text hit, search before text = some hit →
    hit.skipped + hit.taken ≤ text.length)

include hsearch

/-- The next match lies in the text, and is passed by at least one character where a match has
ended. -/
theorem nextHit?_le {before : Option Char} {ended : Bool} {text : List Char} {hit : Hit}
    (h : nextHit? search before ended text = some hit) :
    hit.skipped + hit.taken ≤ text.length ∧ (ended = true → 0 < hit.skipped + hit.taken) := by
  unfold nextHit? at h
  split at h
  · cases h
  · rename_i first hfirst
    have hle := hsearch before text first hfirst
    split at h
    -- an empty match where another ended: the search goes on one character later
    · cases text with
      | nil => cases h
      | cons c rest =>
        obtain ⟨later, hlater, rfl⟩ := Option.map_eq_some_iff.1 h
        have hle := hsearch (some c) rest later hlater
        simp only [List.length_cons]
        omega
    · rename_i hempty
      obtain rfl := Option.some.inj h
      refine ⟨hle, fun hended => ?_⟩
      simp only [hended, Bool.true_and, Bool.and_eq_true, beq_iff_eq] at hempty
      omega

/-- Every step but the first passes a character, so that there are enough of them to meet all
matches. -/
theorem cuts_cutFrom (fuel : Nat) (before : Option Char) (ended : Bool) (text : List Char)
    (hfuel : text.length + (if ended then 0 else 1) < fuel) :
    Cuts search before ended text (cutFrom search before ended fuel text) := by
  induction fuel generalizing before ended text with
  | zero => omega
  | succ fuel ih =>
    rw [cutFrom]
    cases hnext : nextHit? search before ended text with
    | none => exact .done hnext
    | some hit =>
      obtain ⟨hle, hpos⟩ := nextHit?_le hsearch hnext
      obtain ⟨skipped, taken, groups⟩ := hit
      obtain ⟨gap, whole, rest, rfl, rfl, rfl⟩ := exists_parts hle
      have hpassed : (gap ++ whole ++ rest).take (gap.length + whole.length) = gap ++ whole :=
        List.take_left' List.length_append
      have hrest : (gap ++ whole ++ rest).drop (gap.length + whole.length) = rest :=
        List.drop_left' List.length_append
      have hgap : (gap ++ whole ++ rest).take gap.length = gap := by
        rw [List.append_assoc, List.take_left]
      have hwhole : ((gap ++ whole ++ rest).drop gap.length).take whole.length = whole := by
        rw [List.append_assoc, List.drop_left, List.take_left]
      have hfewer : rest.length + 0 < fuel := by
        simp only [List.length_append] at hfuel
        cases ended with
        | false =>
          simp only [Bool.false_eq_true, if_false] at hfuel
          omega
        | true =>
          have hpassing := hpos rfl
          simp only [if_true] at hfuel hpassing
          omega
      simp only [Hit.toMatch, hpassed, hrest, hgap, hwhole]
      exact .more hnext (ih _ true rest hfewer)

end Steps

/-- The pieces of a text are those into which a pattern cuts it. -/
theorem cutsInto_cut (p : Pattern) (text : String) : p.CutsInto text (p.cut text) := by
  refine cuts_cutFrom (fun _ _ _ => searchProgram_le) _ none false text.toList ?_
  simp only [Bool.false_eq_true, if_false, String.length_toList]
  omega

end Playback.Pattern
