import Playback.Pattern.Search

/-!
# Where a search may match

A thread remembers only places that it has passed. So a match that a search reports starts at or
before the place where it stops, and it stops within the text.
-/

namespace Playback.Pattern

/-! ## Remembered places -/

/-- None of the remembered places lies behind a place. -/
def Marks.UpTo (marks : Marks) (place : Nat) : Prop :=
  ∀ mark ∈ marks, mark.2 ≤ place

theorem Marks.UpTo.mono {marks : Marks} {place later : Nat} (h : marks.UpTo place)
    (hle : place ≤ later) : marks.UpTo later :=
  fun mark hmark => Nat.le_trans (h mark hmark) hle

theorem Marks.UpTo.cons {marks : Marks} {place : Nat} (h : marks.UpTo place) (slot : Nat) :
    Marks.UpTo ((slot, place) :: marks) place :=
  List.forall_mem_cons.2 ⟨Nat.le_refl place, h⟩

/-- The place remembered under a number is one of the remembered places. -/
theorem Marks.UpTo.place?_le {marks : Marks} {slot place found : Nat} (h : marks.UpTo place)
    (hfound : marks.place? slot = some found) : found ≤ place := by
  obtain ⟨mark, hmark, rfl⟩ := Option.map_eq_some_iff.1 hfound
  exact h mark (List.mem_of_find?_eq_some hmark)

/-- Threads that remember no place behind the one where they are. -/
def UpTo (threads : List Thread) (place : Nat) : Prop :=
  ∀ t ∈ threads, t.marks.UpTo place

theorem upTo_nil (place : Nat) : UpTo [] place :=
  List.forall_mem_nil _

/-- The threads of a stack that run until they wait remember no place behind the one where they
are. -/
theorem upTo_settle {program : Array Instr} {before after : Option Char} {place fuel : Nat}
    {stack : List Thread} {front : Front} (hstack : UpTo stack place)
    (hwaiting : UpTo front.waiting place) :
    UpTo (Front.settle program before after place fuel stack front).waiting place := by
  induction fuel generalizing stack front with
  | zero => exact hwaiting
  | succ fuel ih =>
    cases stack with
    | nil => exact hwaiting
    | cons t stack =>
      obtain ⟨ht, hrest⟩ := List.forall_mem_cons.1 hstack
      rw [Front.settle]
      split
      · exact ih hrest hwaiting
      · dsimp only
        split
        · exact ih hrest hwaiting
        · exact ih hrest (List.forall_mem_cons.2 ⟨ht, hwaiting⟩)
        · exact ih hrest (List.forall_mem_cons.2 ⟨ht, hwaiting⟩)
        · split
          · exact ih (List.forall_mem_cons.2 ⟨ht, hrest⟩) hwaiting
          · exact ih hrest hwaiting
        · exact ih (List.forall_mem_cons.2 ⟨ht.cons _, hrest⟩) hwaiting
        · exact ih (List.forall_mem_cons.2 ⟨ht, hrest⟩) hwaiting
        · exact ih (List.forall_mem_cons.2 ⟨ht, List.forall_mem_cons.2 ⟨ht, hrest⟩⟩) hwaiting

/-- A match that is reported stops within a bound and remembers no place behind its end. -/
def Within (found : Option (Marks × Nat)) (bound : Nat) : Prop :=
  ∀ marks stop, found = some (marks, stop) → marks.UpTo stop ∧ stop ≤ bound

theorem Within.orElse {first second : Option (Marks × Nat)} {bound : Nat} (h : Within first bound)
    (h' : Within second bound) : Within (first <|> second) bound := by
  cases first with
  | none => exact h'
  | some found => exact h

/-- The threads that eat a character and the match that one of them reports remember no place behind
the one where they are. -/
theorem upTo_eatNext (program : Array Instr) (c? : Option Char) {place : Nat}
    {threads : List Thread} (h : UpTo threads place) :
    UpTo (eatNext program c? place threads).1 place ∧
      Within (eatNext program c? place threads).2 place := by
  induction threads with
  | nil => exact ⟨h, fun _ _ hfound => nomatch hfound⟩
  | cons t threads ih =>
    obtain ⟨ht, hrest⟩ := List.forall_mem_cons.1 h
    obtain ⟨hmoved, hfound⟩ := ih hrest
    rw [eatNext]
    split
    · dsimp only
      split
      · exact ⟨List.forall_mem_cons.2 ⟨ht, hmoved⟩, hfound⟩
      · exact ⟨hmoved, hfound⟩
    · refine ⟨upTo_nil place, fun marks stop hreport => ?_⟩
      cases hreport
      exact ⟨ht, Nat.le_refl place⟩
    · exact ⟨hmoved, hfound⟩

/-! ## Matches -/

/-- The threads at a place, with the one that starts there while there is no match. -/
theorem upTo_start {stack : List Thread} {place : Nat} (h : UpTo stack place) (starts : Bool) :
    UpTo (if starts then stack ++ [⟨0, [(0, place)]⟩] else stack) place := by
  split
  · refine List.forall_mem_append.2 ⟨h, List.forall_mem_singleton.2 ?_⟩
    exact List.forall_mem_singleton.2 (Nat.le_refl place)
  · exact h

theorem upTo_reverse_settle (program : Array Instr) (before after : Option Char) (fuel : Nat)
    {place : Nat} {stack : List Thread} (h : UpTo stack place) :
    UpTo (Front.settle program before after place fuel stack
      (Front.start program.size)).waiting.reverse place := by
  intro t ht
  exact upTo_settle h (upTo_nil place) t (List.mem_reverse.1 ht)

/-- The match that running a program over a text reports stops within the text. -/
theorem within_runProgram {program : Array Instr} {before : Option Char} {place : Nat}
    {stack : List Thread} {found : Option (Marks × Nat)} {text : List Char}
    (hstack : UpTo stack place) (hfound : Within found (place + text.length)) :
    Within (runProgram program before place stack found text) (place + text.length) := by
  induction text generalizing before place stack found with
  | nil =>
    rw [runProgram]
    have hstart := upTo_start hstack found.isNone
    exact (upTo_eatNext program none (upTo_reverse_settle program before none _ hstart)).2.orElse
      hfound
  | cons c rest ih =>
    rw [runProgram]
    have hstart := upTo_start hstack found.isNone
    dsimp only
    generalize (if found.isNone then stack ++ [⟨0, [(0, place)]⟩] else stack) = started at hstart ⊢
    split
    · exact hfound
    · have hlength : place + (c :: rest).length = place + 1 + rest.length := by
        rw [List.length_cons]
        omega
      rw [hlength] at hfound ⊢
      have hsettled := upTo_reverse_settle program before (some c)
        (2 * program.size + started.length + 1) hstart
      obtain ⟨hmoved, hbetter⟩ := upTo_eatNext program (some c) hsettled
      refine ih (fun t ht => (hmoved t ht).mono (Nat.le_succ place)) (Within.orElse ?_ hfound)
      intro marks stop hstop
      obtain ⟨hmarks, hle⟩ := hbetter marks stop hstop
      exact ⟨hmarks, by omega⟩

/-- What a search leaves out and what it takes are parts of the text. -/
theorem searchProgram_le {program : Array Instr} {groupCount : Nat} {before : Option Char}
    {text : List Char} {hit : Hit} (h : searchProgram program groupCount before text = some hit) :
    hit.skipped + hit.taken ≤ text.length := by
  obtain ⟨⟨marks, stop⟩, hrun, rfl⟩ := Option.map_eq_some_iff.1 h
  have hwithin : Within (runProgram program before 0 [] none text) (0 + text.length) :=
    within_runProgram (upTo_nil 0) fun _ _ hfound => nomatch hfound
  obtain ⟨hmarks, hstop⟩ := hwithin marks stop hrun
  have hstart : (marks.place? 0).getD 0 ≤ stop := by
    cases hplace : marks.place? 0 with
    | none => exact Nat.zero_le stop
    | some start => exact hmarks.place?_le hplace
  dsimp only
  omega

end Playback.Pattern
