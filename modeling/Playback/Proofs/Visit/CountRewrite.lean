import Playback.Proofs.Text.Blank
import Playback.Proofs.Text.Digits
import Playback.Proofs.Visit.Commits

/-!
# Rewriting use counts

A rewrite of a use count is all or nothing. Where the template renders to a count that the condition
of the source allows, the count becomes this one and nothing else changes. Everywhere else nothing
changes at all.
-/

namespace Playback

open Text

/-! ## Counts between blanks -/

/-- The text of a count has no blanks. -/
theorem Text.WritesCount.not_blank {cs : List Char} {n : Int} (h : WritesCount cs n) :
    ∀ c ∈ cs, isBlank c = false := by
  have hdigit {c : Char} (hc : c.isDigit = true) : isBlank c = false :=
    isBlank_of_isDigit ((isDigit_eq c).trans hc)
  cases h with
  | unsigned h => exact fun c hc => hdigit (h.2.1 c hc)
  | plus h => exact List.forall_mem_cons.2 ⟨by decide, fun c hc => hdigit (h.2.1 c hc)⟩
  | minus h => exact List.forall_mem_cons.2 ⟨by decide, fun c hc => hdigit (h.2.1 c hc)⟩

/-- The text of a count is not empty. -/
theorem Text.WritesCount.ne_nil {cs : List Char} {n : Int} (h : WritesCount cs n) : cs ≠ [] := by
  cases h with
  | unsigned h => exact h.1
  | plus h => exact List.cons_ne_nil _ _
  | minus h => exact List.cons_ne_nil _ _

/-- A template renders in a store to the text of a count, with any blanks around it. -/
def Template.RendersCount (template : Template) (s : Store) (n : Int) : Prop :=
  ∃ before text behind, (template.renderIn s []).toList = before ++ text ++ behind ∧
    (∀ c ∈ before, isBlank c = true) ∧ (∀ c ∈ behind, isBlank c = true) ∧ WritesCount text n

/-- A template renders to a count when what it renders to is read as one, apart from blanks. -/
theorem Template.rendersCount_iff {template : Template} {s : Store} {n : Int} :
    template.RendersCount s n ↔ countOf? (trimChars (template.renderIn s []).toList) = some n := by
  constructor
  · rintro ⟨before, text, behind, hrendered, hbefore, hbehind, hcount⟩
    have hblank := hcount.not_blank
    rw [hrendered, trimChars_append hcount.ne_nil hbefore hbehind, countOf?_eq_some_iff]
    · exact hcount
    · exact fun c hc => hblank c (List.mem_of_mem_head? hc)
    · exact fun c hc => hblank c (List.mem_of_mem_getLast? hc)
  · intro h
    obtain ⟨before, behind, hrendered, hbefore, hbehind⟩ :=
      exists_blanks (template.renderIn s []).toList
    exact ⟨before, _, behind, hrendered, hbefore, hbehind, countOf?_eq_some_iff.1 h⟩

/-! ## Rewrites -/

namespace Visit

/-- What a visit is when a use count, and nothing else, has been set. -/
structure CountSet (v w : Visit) (chapter : Option String) (uses : Int) : Prop where
  /-- The count is the new one, also where the chapter had none. -/
  count : w.usesOf? chapter = some uses
  /-- All other counts stay, that of the visited chapter and those of other chapters by name. -/
  otherCounts : ∀ other ≠ chapter, w.usesOf? other = v.usesOf? other
  /-- The variables of all scopes stay. -/
  scopes : ∀ scope, w.store.scope scope = v.store.scope scope
  /-- The response stays. -/
  response : w.response = v.response
  /-- The request stays. -/
  request : w.request = v.request

/-- Replacing a use count sets it and leaves all else as it was. -/
theorem countSet_setUses (v : Visit) (chapter : Option String) (uses : Int) :
    v.CountSet (v.setUses chapter uses) chapter uses where
  count := by rw [usesOf?_setUses, if_pos rfl]
  otherCounts := by
    intro other hother
    rw [usesOf?_setUses, if_neg hother.symm]
  scopes := by
    intro scope
    cases chapter with
    | none => rfl
    | some chapter => exact v.store.scope_setUses chapter uses scope
  response := by cases chapter <;> rfl
  request := by cases chapter <;> rfl

/-- A use count has no groups. -/
theorem groups_find_uses (v : Visit) (chapter : Option String) (condition : Option CountExpr) :
    (v.find (.uses chapter condition)).groups = [] := by
  rw [find]
  split <;> rfl

/-- A replacement of a use count whose gate passes sets exactly this count, to the number that its
template renders to, where the condition of its source holds of this number. Otherwise it changes
nothing. -/
theorem countSet_execute {v : Visit} {c : Command} {chapter : Option String}
    {condition : Option CountExpr} {template : Template}
    (hsource : c.source = .uses chapter condition)
    (haction : c.action = some (.replace template))
    (hpassed : c.passes (v.find c.source).matched = true) :
    (∀ n, template.RendersCount v.store n → (∀ e ∈ condition, e.holds n = true) →
        v.CountSet (v.execute c).1 chapter n) ∧
      ((∀ n, template.RendersCount v.store n → ¬ ∀ e ∈ condition, e.holds n = true) →
        (v.execute c).1 = v) := by
  have hallowed (n : Int) :
      countAllowed condition n = true ↔ ∀ e ∈ condition, e.holds n = true := by
    cases condition <;> simp [countAllowed]
  rw [execute_of_passes haction hpassed, hsource]
  simp only [replace, groups_find_uses]
  constructor
  · intro n hrenders hholds
    rw [Template.rendersCount_iff.1 hrenders, Option.filter_some, if_pos ((hallowed n).2 hholds)]
    exact v.countSet_setUses chapter n
  · intro hnone
    have hfilter : (countOf? (trimChars (template.renderIn v.store []).toList)).filter
        (countAllowed condition) = none := by
      refine Option.filter_eq_none_iff.2 fun n hn hcount => ?_
      exact hnone n (Template.rendersCount_iff.2 hn) ((hallowed n).1 hcount)
    rw [hfilter]

/-- A visit in which a variable has the text of a number between blanks. -/
def knowingNext : Visit :=
  ⟨.empty, .empty, Store.empty.set .local "next" " +007\n", 3⟩

/-- A command that sets the use count of another chapter to that number, if it is above five. -/
def setLogin : Command :=
  ⟨none, .uses (some "login") (some ⟨.above 5, []⟩), some (.replace ⟨"@\x7bnext\x7d"⟩)⟩

/-- The chapter had no use count, and the condition is asked of the new one only. -/
theorem countSet_knowingNext :
    knowingNext.usesOf? (some "login") = none ∧
      knowingNext.CountSet (knowingNext.execute setLogin).1 (some "login") 7 ∧
      (knowingNext.execute setLogin).1.uses = 3 := by
  have hpassed : setLogin.passes (knowingNext.find setLogin.source).matched = true := by
    decide +kernel
  have hrenders : Template.RendersCount ⟨"@\x7bnext\x7d"⟩ knowingNext.store 7 := by
    refine ⟨[' '], ['+', '0', '0', '7'], ['\n'], by decide +kernel, ?_, ?_, ?_⟩
    · exact List.forall_mem_singleton.2 rfl
    · exact List.forall_mem_singleton.2 rfl
    · exact .plus ⟨List.cons_ne_nil _ _, List.all_eq_true.1 rfl, rfl⟩ (by decide)
  have hset := (countSet_execute rfl rfl hpassed).1 7 hrenders (by decide)
  exact ⟨by decide, hset, Option.some.inj (hset.otherCounts none (by decide))⟩

end Visit

end Playback
