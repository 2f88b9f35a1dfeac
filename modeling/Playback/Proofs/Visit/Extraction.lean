import Playback.Proofs.Store
import Playback.Proofs.Text.Digits

/-!
# What an extraction writes

An extraction tells several details of what its source has yielded, each in a variable of its own
whose name is that of the target with a suffix. No two suffixes are the same, so that each variable
ends up with the detail that belongs to it, and no other variable changes.
-/

namespace Playback

open Text

/-! ## Details and their keys -/

/-- What an extraction may tell. -/
inductive Detail where
  /-- The first captured value, or else the result of the gate. -/
  | value
  /-- Whether the source matched. -/
  | matched
  /-- How many values were captured. -/
  | count
  /-- The result of the gate. -/
  | passed
  /-- The captured value at a place, where all are told. -/
  | item (i : Nat)
  /-- The last captured value. -/
  | last
  /-- The captured value at a place, where only this one is told. -/
  | index (i : Nat)
  deriving DecidableEq

namespace Detail

/-- What stands behind the name of the target in the name of the variable for a detail. -/
def suffix : Detail → String
  | .value => ""
  | .matched => "?"
  | .count => "#"
  | .passed => "@"
  | .item i => "_" ++ natText i
  | .last => "_?"
  | .index i => "_#" ++ natText i

/-- The variable for a detail. -/
def key (name : String) (d : Detail) : String :=
  name ++ d.suffix

/-- The detail that has a suffix. -/
def ofSuffix? : List Char → Option Detail
  | [] => some .value
  | ['?'] => some .matched
  | ['#'] => some .count
  | ['@'] => some .passed
  | ['_', '?'] => some .last
  | '_' :: '#' :: digits => (natOfDigits? digits).map .index
  | '_' :: digits => (natOfDigits? digits).map .item
  | _ => none

/-- A detail can be told from its suffix. -/
theorem ofSuffix?_suffix (d : Detail) : ofSuffix? d.suffix.toList = some d := by
  cases d with
  | value => rfl
  | matched => rfl
  | count => rfl
  | passed => rfl
  | last => rfl
  | index i =>
    have hchars : (suffix (.index i)).toList = '_' :: '#' :: natDigits i := by
      simp [suffix, natText]
    rw [hchars, ofSuffix?, natOfDigits?_natDigits, Option.map_some]
  | item i =>
    have hchars : (suffix (.item i)).toList = '_' :: natDigits i := by
      simp [suffix, natText]
    have hmark : natDigits i ≠ ['?'] := by
      intro h
      have hmem : '?' ∈ natDigits i := h ▸ List.mem_singleton_self '?'
      exact not_mem_natDigits (by decide) hmem
    have hsign (digits : List Char) : natDigits i ≠ '#' :: digits := by
      intro h
      have hmem : '#' ∈ natDigits i := h ▸ List.mem_cons_self
      exact not_mem_natDigits (by decide) hmem
    rw [hchars, ofSuffix?, natOfDigits?_natDigits, Option.map_some]
    · exact hmark
    · exact hsign

/-- The variables for two details are not the same. -/
theorem key_injective (name : String) : Function.Injective (key name) := by
  intro d e h
  have hsuffix : d.suffix = e.suffix := (String.append_right_inj name).1 h
  have hread : some d = some e := by
    rw [← ofSuffix?_suffix d, hsuffix, ofSuffix?_suffix e]
  exact Option.some.inj hread

end Detail

/-! ## The entries of a target -/

namespace Target

/-- The text of a detail, if the target tells it. The details of single captured values are told
only if the gate has passed. -/
def detail? (target : Target) (found : Finding) (passed : Bool) : Detail → Option String
  | .value =>
    match found.first? with
    | some text => if passed then some text else some (boolText passed)
    | none => some (boolText passed)
  | .matched => if target.tellMatched then some (boolText found.matched) else none
  | .count => if target.tellCount then some (natText found.captured.length) else none
  | .passed => if target.tellPassed then some (boolText passed) else none
  | .item i => if passed ∧ target.spread = .all then found.captured[i]? else none
  | .last => if passed ∧ target.spread = .last then found.captured.getLast? else none
  | .index i => if passed ∧ target.spread = .index i then found.captured[i]? else none

variable {target : Target} {found : Finding} {passed : Bool} {key value : String}

/-- The entries for single captured values are the details of those. -/
theorem exists_detail_of_mem_spread (h : (key, value) ∈ target.spread.entries target.name
    found.captured) : ∃ d, Detail.key target.name d = key ∧
      target.detail? found true d = some value := by
  cases hspread : target.spread with
  | none =>
    rw [hspread] at h
    cases h
  | all =>
    rw [hspread, Spread.entries, List.mem_map] at h
    obtain ⟨⟨text, i⟩, hmem, heq⟩ := h
    obtain ⟨rfl, rfl⟩ := Prod.mk.inj heq
    have hi : found.captured[i]? = some text := List.mem_zipIdx_iff_getElem?.1 hmem
    exact ⟨.item i, String.append_assoc.symm, by simp [detail?, hspread, hi]⟩
  | last =>
    rw [hspread, Spread.entries, Option.mem_toList, Option.map_eq_some_iff] at h
    obtain ⟨text, hlast, heq⟩ := h
    obtain ⟨rfl, rfl⟩ := Prod.mk.inj heq
    exact ⟨.last, rfl, by simp [detail?, hspread, hlast]⟩
  | index i =>
    rw [hspread, Spread.entries, Option.mem_toList, Option.map_eq_some_iff] at h
    obtain ⟨text, hi, heq⟩ := h
    obtain ⟨rfl, rfl⟩ := Prod.mk.inj heq
    exact ⟨.index i, String.append_assoc.symm, by simp [detail?, hspread, hi]⟩

/-- Every entry of a target is a detail that it tells. -/
theorem exists_detail_of_mem_entries (h : (key, value) ∈ target.entries found passed) :
    ∃ d, Detail.key target.name d = key ∧ target.detail? found passed d = some value := by
  rw [entries, List.mem_append] at h
  rcases h with h | h
  · obtain ⟨⟨told, entry⟩, hmem, rfl⟩ := List.mem_map.1 h
    obtain ⟨hmem, htold⟩ := List.mem_filter.1 hmem
    simp only [List.mem_cons, List.not_mem_nil, or_false, Prod.mk.injEq] at hmem htold
    rcases hmem with ⟨-, rfl, rfl⟩ | ⟨rfl, rfl, rfl⟩ | ⟨rfl, rfl, rfl⟩ | ⟨rfl, rfl, rfl⟩
    · refine ⟨.value, String.append_empty, ?_⟩
      cases passed <;> cases hfirst : found.first? <;> simp [detail?, hfirst]
    · exact ⟨.matched, rfl, if_pos htold⟩
    · exact ⟨.count, rfl, if_pos htold⟩
    · exact ⟨.passed, rfl, if_pos htold⟩
  · cases passed with
    | false => cases h
    | true => exact exists_detail_of_mem_spread h

/-- Every detail that a target tells is one of its entries. -/
theorem mem_entries_of_detail {d : Detail} (h : target.detail? found passed d = some value) :
    (Detail.key target.name d, value) ∈ target.entries found passed := by
  rw [entries, List.mem_append]
  cases d with
  | value =>
    left
    cases passed <;> cases hfirst : found.first? <;>
      simp_all [detail?, Detail.key, Detail.suffix]
  | matched | count | passed =>
    left
    obtain ⟨htold, htext⟩ := Option.ite_none_right_eq_some.1 h
    simp [Detail.key, Detail.suffix, htold, Option.some.inj htext]
  | item i =>
    right
    obtain ⟨⟨hpassed, hspread⟩, htext⟩ := Option.ite_none_right_eq_some.1 h
    rw [if_pos hpassed, hspread, Spread.entries, List.mem_map]
    refine ⟨(value, i), List.mem_zipIdx_iff_getElem?.2 htext, ?_⟩
    simp [Detail.key, Detail.suffix, String.append_assoc]
  | last =>
    right
    obtain ⟨⟨hpassed, hspread⟩, htext⟩ := Option.ite_none_right_eq_some.1 h
    rw [if_pos hpassed, hspread, Spread.entries, Option.mem_toList, htext]
    rfl
  | index i =>
    right
    obtain ⟨⟨hpassed, hspread⟩, htext⟩ := Option.ite_none_right_eq_some.1 h
    rw [if_pos hpassed, hspread, Spread.entries, Option.mem_toList, htext]
    simp [Detail.key, Detail.suffix, String.append_assoc]

/-- The entries of a target are the details that it tells. -/
theorem mem_entries_iff :
    (key, value) ∈ target.entries found passed ↔
      ∃ d, Detail.key target.name d = key ∧ target.detail? found passed d = some value := by
  constructor
  · exact exists_detail_of_mem_entries
  · rintro ⟨d, rfl, hd⟩
    exact mem_entries_of_detail hd

end Target

/-! ## Extractions -/

namespace Visit

/-- What a visit is when what a source has yielded has been extracted into a target. -/
structure Extracted (v w : Visit) (target : Target) (found : Finding) (passed : Bool) : Prop where
  /-- The variable for each detail that is told has its text. -/
  told : ∀ d text, target.detail? found passed d = some text →
    w.store.get? target.scope (d.key target.name) = some text
  /-- The variables for these details are different ones. -/
  distinct : ∀ d e : Detail, d.key target.name = e.key target.name → d = e
  /-- All other variables of the scope are as they were. -/
  others : ∀ key, (∀ d, (target.detail? found passed d).isSome = true → d.key target.name ≠ key) →
    w.store.get? target.scope key = v.store.get? target.scope key
  /-- So are the other scopes. -/
  scopes : ∀ place ≠ target.scope, w.store.scope place = v.store.scope place
  /-- So are the use counts of chapters by name. -/
  chapterUses : w.store.chapterUses = v.store.chapterUses
  /-- So is the use count of the visited chapter. -/
  uses : w.uses = v.uses
  /-- So is the response. -/
  response : w.response = v.response
  /-- So is the request. -/
  request : w.request = v.request

/-- To write the entries of a target is to extract. -/
theorem extracted_setAll (v : Visit) (target : Target) (found : Finding) (passed : Bool) :
    v.Extracted { v with store := v.store.setAll target.scope (target.entries found passed) }
      target found passed where
  told := by
    intro d text hd
    refine Store.get?_setAll_of_mem (Target.mem_entries_iff.2 ⟨d, rfl, hd⟩) ?_
    intro other hother
    obtain ⟨e, hkey, he⟩ := Target.mem_entries_iff.1 hother
    have hsame : e = d := Detail.key_injective target.name hkey
    rw [hsame, hd] at he
    exact (Option.some.inj he).symm
  distinct := fun d e h => Detail.key_injective target.name h
  others := by
    intro key hkey
    refine Store.get?_setAll_of_notMem fun _ entry hentry heq => ?_
    obtain ⟨d, hd, htext⟩ := Target.mem_entries_iff.1 hentry
    have hsome : (target.detail? found passed d).isSome = true := by
      rw [htext]
      rfl
    exact hkey d hsome (hd.trans heq)
  scopes := fun place hplace => v.store.scope_setAll_of_ne hplace _
  chapterUses := v.store.chapterUses_setAll _ _
  uses := rfl
  response := rfl
  request := rfl

/-- An extraction whose gate passes, or which is optional, writes exactly the details that its
target tells of what the source yields beforehand. -/
theorem extracted_execute {v : Visit} {c : Command} {target : Target} {passed : Bool}
    (haction : c.action = some (.extract target))
    (hpassed : c.passes (v.find c.source).matched = passed)
    (hruns : passed = true ∨ c.isOptional = true) :
    (v.execute c).2 = .applied passed ∧
      v.Extracted (v.execute c).1 target (v.find c.source) passed := by
  have hgate : (!passed && !c.isOptional) = false := by
    rcases hruns with hruns | hruns <;> simp [hruns]
  have hexecute : v.execute c =
      ({ v with store := v.store.setAll target.scope (target.entries (v.find c.source) passed) },
        .applied passed) := by
    simp [execute, act, hpassed, hgate, haction]
  rw [hexecute]
  exact ⟨rfl, v.extracted_setAll target (v.find c.source) passed⟩

/-- A visit whose chapter variables are about to be read and written by one command. -/
def spreading : Visit :=
  ⟨.empty, .empty, (Store.empty.set .chapter "a" "x").set .chapter "a_1" "y", 0⟩

/-- A command that spreads all chapter variables over variables of the chapter. -/
def spreadAll : Command :=
  ⟨none, .variable .chapter false none none,
    some (.extract ⟨.chapter, "a", true, true, true, .all⟩)⟩

/-- The values that it writes are those from before, although it writes over them. -/
theorem extracted_spreading :
    (spreading.execute spreadAll).2 = .applied true ∧
      (spreading.execute spreadAll).1.store.get? .chapter "a#" = some "2" ∧
      (spreading.execute spreadAll).1.store.get? .chapter "a_0" = some "x" ∧
      (spreading.execute spreadAll).1.store.get? .chapter "a_1" = some "y" ∧
      (spreading.execute spreadAll).1.store.get? .chapter "a_2" = none := by
  obtain ⟨houtcome, hextracted⟩ :=
    extracted_execute (v := spreading) (c := spreadAll) rfl (by decide +kernel) (.inl rfl)
  refine ⟨houtcome, ?_, ?_, ?_, ?_⟩
  · exact hextracted.told .count "2" (by decide +kernel)
  · exact hextracted.told (.item 0) "x" (by decide +kernel)
  · exact hextracted.told (.item 1) "y" (by decide +kernel)
  · decide +kernel

end Visit

end Playback
