import Playback.Proofs.Headers
import Playback.Proofs.Visit.Effect
import Playback.Proofs.Visit.Extraction

/-!
# What a run may write

Which variables, use counts, headers and bodies a list of commands may change can be told from the
commands alone, whatever they read. Nothing else is changed by running them, and no variable of the
outer scopes and no use count is ever removed.
-/

namespace Playback

open Text

/-! ## The write set of a command -/

/-- The keys that a spread writes for a name. -/
def Spread.Writes (name key : String) : Spread → Prop
  | .none => False
  | .all => ∃ i, key = name ++ "_" ++ natText i
  | .last => key = name ++ "_?"
  | .index n => key = name ++ "_#" ++ natText n

/-- The keys that a target may write: its name, the name with the sign of a flag that is set, and
those of its spread. -/
def Target.Writes (target : Target) (key : String) : Prop :=
  key = target.name ∨
    (target.tellMatched = true ∧ key = target.name ++ "?") ∨
    (target.tellCount = true ∧ key = target.name ++ "#") ∨
    (target.tellPassed = true ∧ key = target.name ++ "@") ∨
    target.spread.Writes target.name key

namespace Command

/-- The variables that a command may write: those of its target, or the one that it replaces. -/
def WritesVariable (c : Command) (scope : Scope) (key : String) : Prop :=
  (∃ target, c.action = some (.extract target) ∧ target.scope = scope ∧ target.Writes key) ∨
    c.isReplacement = true ∧ ∃ up pattern, c.source = .variable scope up (some key) pattern

/-- The use counts that a command may write. -/
def WritesUses (c : Command) (chapter : Option String) : Prop :=
  c.isReplacement = true ∧ ∃ condition, c.source = .uses chapter condition

/-- Whether a command may write the body of the response. -/
def WritesBody (c : Command) : Prop :=
  c.isReplacement = true ∧ ∃ pattern, c.source = .body .response pattern

/-- The headers of the response that a command may write: all, or those with its key in any
spelling. -/
def WritesHeader (c : Command) (name : String) : Prop :=
  c.isReplacement = true ∧
    ∃ key pattern, c.source = .head .response key pattern ∧ ∀ k ∈ key, sameName k name = true

end Command

/-! ## What a target writes -/

/-- The entries of a target have keys that the target writes. -/
theorem Target.writes_of_mem_entries {target : Target} {found : Finding} {passed : Bool}
    {entry : String × String} (h : entry ∈ target.entries found passed) :
    target.Writes entry.1 := by
  obtain ⟨d, hkey, htext⟩ := mem_entries_iff.1 h
  rw [← hkey]
  cases d with
  | value => exact .inl String.append_empty
  | matched => exact .inr (.inl ⟨(Option.ite_none_right_eq_some.1 htext).1, rfl⟩)
  | count => exact .inr (.inr (.inl ⟨(Option.ite_none_right_eq_some.1 htext).1, rfl⟩))
  | passed => exact .inr (.inr (.inr (.inl ⟨(Option.ite_none_right_eq_some.1 htext).1, rfl⟩)))
  | item i =>
    have hspread : target.spread = .all := (Option.ite_none_right_eq_some.1 htext).1.2
    refine .inr (.inr (.inr (.inr ?_)))
    rw [hspread]
    exact ⟨i, String.append_assoc.symm⟩
  | last =>
    have hspread : target.spread = .last := (Option.ite_none_right_eq_some.1 htext).1.2
    refine .inr (.inr (.inr (.inr ?_)))
    rw [hspread]
    exact Eq.refl _
  | index i =>
    have hspread : target.spread = .index i := (Option.ite_none_right_eq_some.1 htext).1.2
    refine .inr (.inr (.inr (.inr ?_)))
    rw [hspread]
    exact String.append_assoc.symm

/-! ## Steps -/

namespace Visit.Effect

variable {c : Command} {v w : Visit}

/-- A command leaves the variables alone that it may not write. -/
theorem get?_eq (h : Effect v c w) {scope : Scope} {key : String}
    (hwrites : ¬ c.WritesVariable scope key) : w.store.get? scope key = v.store.get? scope key := by
  rw [Command.WritesVariable, not_or] at hwrites
  obtain ⟨hextract, hreplace⟩ := hwrites
  cases h with
  | nothing => rfl
  | extract target passed haction =>
    refine Store.get?_setAll_of_notMem ?_
    rintro hscope entry hentry rfl
    exact hextract ⟨target, haction, hscope, Target.writes_of_mem_entries hentry⟩
  | setVariable place up name pattern value haction hsource =>
    dsimp only
    rw [Store.get?_set, if_neg]
    rintro ⟨rfl, rfl⟩
    exact hreplace ⟨haction, up, pattern, hsource⟩
  | setUses chapter condition uses haction hsource hallowed =>
    cases chapter with
    | none => rfl
    | some chapter => exact Store.get?_setUses v.store chapter uses scope key
  | rewriteBody pattern render haction hsource => rfl
  | rewriteHeaders key pattern render haction hsource => rfl

/-- A command leaves the use counts alone that it may not write. -/
theorem usesOf?_eq (h : Effect v c w) {chapter : Option String} (hwrites : ¬ c.WritesUses chapter) :
    w.usesOf? chapter = v.usesOf? chapter := by
  cases h with
  | nothing => rfl
  | extract target passed haction =>
    cases chapter with
    | none => rfl
    | some chapter => exact Store.usesOf?_setAll v.store _ _ chapter
  | setVariable scope up name pattern value haction hsource =>
    cases chapter with
    | none => rfl
    | some chapter => exact Store.usesOf?_set v.store scope name value chapter
  | setUses other condition uses haction hsource hallowed =>
    have hne : chapter ≠ other := by
      rintro rfl
      exact hwrites ⟨haction, condition, hsource⟩
    cases chapter with
    | none =>
      cases other with
      | none => exact absurd rfl hne
      | some other => rfl
    | some chapter =>
      cases other with
      | none => rfl
      | some other =>
        have hchapter : chapter ≠ other := fun he => hne (congrArg some he)
        exact (Store.usesOf?_setUses v.store other chapter uses).trans (if_neg hchapter)
  | rewriteBody pattern render haction hsource => cases chapter <;> rfl
  | rewriteHeaders key pattern render haction hsource => cases chapter <;> rfl

/-- A command leaves the body of the response alone unless it may write it. -/
theorem body_eq (h : Effect v c w) (hwrites : ¬ c.WritesBody) :
    w.response.body = v.response.body := by
  cases h with
  | nothing => rfl
  | extract target passed haction => rfl
  | setVariable scope up name pattern value haction hsource => rfl
  | setUses chapter condition uses haction hsource hallowed => cases chapter <;> rfl
  | rewriteBody pattern render haction hsource => exact absurd ⟨haction, pattern, hsource⟩ hwrites
  | rewriteHeaders key pattern render haction hsource => rfl

/-- A command leaves the headers of the response alone that it may not write. -/
theorem getAll?_eq (h : Effect v c w) {name : String} (hwrites : ¬ c.WritesHeader name) :
    w.response.headers.getAll? name = v.response.headers.getAll? name := by
  cases h with
  | nothing => rfl
  | extract target passed haction => rfl
  | setVariable scope up name pattern value haction hsource => rfl
  | setUses chapter condition uses haction hsource hallowed => cases chapter <;> rfl
  | rewriteBody pattern render haction hsource => rfl
  | rewriteHeaders key pattern render haction hsource =>
    cases key with
    | none => exact absurd ⟨haction, none, pattern, hsource, by simp⟩ hwrites
    | some key =>
      have hname : sameName key name = false := by
        rw [← Bool.not_eq_true]
        intro hsame
        exact hwrites ⟨haction, some key, pattern, hsource, by simpa using hsame⟩
      exact v.response.headers.getAll?_update hname _

/-- A command removes no variable. -/
theorem isSome_get? (h : Effect v c w) {scope : Scope} {key : String}
    (hkey : (v.store.get? scope key).isSome = true) :
    (w.store.get? scope key).isSome = true := by
  cases h with
  | nothing => exact hkey
  | extract target passed haction => exact Store.isSome_get?_setAll hkey _ _
  | setVariable place up name pattern value haction hsource =>
    exact Store.isSome_get?_set hkey place name value
  | setUses chapter condition uses haction hsource hallowed =>
    cases chapter with
    | none => exact hkey
    | some chapter => exact (Store.get?_setUses v.store chapter uses scope key).symm ▸ hkey
  | rewriteBody pattern render haction hsource => exact hkey
  | rewriteHeaders key pattern render haction hsource => exact hkey

/-- A command removes no use count. -/
theorem isSome_usesOf? (h : Effect v c w) {chapter : String}
    (hchapter : (v.store.usesOf? chapter).isSome = true) :
    (w.store.usesOf? chapter).isSome = true := by
  cases h with
  | nothing => exact hchapter
  | extract target passed haction =>
    exact (Store.usesOf?_setAll v.store _ _ chapter).symm ▸ hchapter
  | setVariable scope up name pattern value haction hsource =>
    exact (Store.usesOf?_set v.store scope name value chapter).symm ▸ hchapter
  | setUses other condition uses haction hsource hallowed =>
    cases other with
    | none => exact hchapter
    | some other =>
      change ((v.store.setUses other uses).usesOf? chapter).isSome = true
      rw [Store.usesOf?_setUses]
      split
      · rfl
      · exact hchapter
  | rewriteBody pattern render haction hsource => exact hchapter
  | rewriteHeaders key pattern render haction hsource => exact hchapter

end Visit.Effect

/-! ## Runs -/

/-- What has changed from one visit to another lies in the write set of a list of commands, and no
variable of the outer scopes and no use count has been removed. -/
structure Visit.ChangedWithin (commands : List Command) (v w : Visit) : Prop where
  /-- A variable of the chapter or the session that has changed is written by a command. -/
  outerVariables : ∀ scope ≠ .local, ∀ key, w.store.get? scope key ≠ v.store.get? scope key →
    ∃ c ∈ commands, c.WritesVariable scope key
  /-- A use count that has changed, of the visited chapter or a named one, is written by a
  command. -/
  uses : ∀ chapter, w.usesOf? chapter ≠ v.usesOf? chapter → ∃ c ∈ commands, c.WritesUses chapter
  /-- When the body of the response has changed, it is written by a command. -/
  body : w.response.body ≠ v.response.body → ∃ c ∈ commands, c.WritesBody
  /-- A header of the response whose values have changed is written by a command. -/
  headers : ∀ name, w.response.headers.getAll? name ≠ v.response.headers.getAll? name →
    ∃ c ∈ commands, c.WritesHeader name
  /-- A variable of the chapter or the session is still there. -/
  keepsOuterVariables : ∀ scope ≠ .local, ∀ key, (v.store.get? scope key).isSome = true →
    (w.store.get? scope key).isSome = true
  /-- The use count of a chapter is still there. -/
  keepsUses : ∀ chapter, (v.store.usesOf? chapter).isSome = true →
    (w.store.usesOf? chapter).isSome = true

/-- A run changes nothing outside of the write set of its commands, whatever they read, and removes
no variable of the outer scopes and no use count. -/
theorem Visit.changedWithin_run (v : Visit) (commands : List Command) :
    ChangedWithin commands v (v.run commands).1 where
  outerVariables := by
    intro scope hscope key hchanged
    have hlocal := Store.get?_clearLocal (s := (v.executeAll commands).1.store) hscope key
    refine exists_of_executeAll_ne (fun w => w.store.get? scope key) ?_ (hlocal ▸ hchanged)
    exact fun c v hwrites => (v.effect_execute c).get?_eq hwrites
  uses := by
    intro chapter hchanged
    have hlocal : (v.run commands).1.usesOf? chapter =
        (v.executeAll commands).1.usesOf? chapter := by
      cases chapter <;> rfl
    refine exists_of_executeAll_ne (fun w => w.usesOf? chapter) ?_ (hlocal ▸ hchanged)
    exact fun c v hwrites => (v.effect_execute c).usesOf?_eq hwrites
  body := by
    intro hchanged
    refine exists_of_executeAll_ne (fun w => w.response.body) ?_ hchanged
    exact fun c v hwrites => (v.effect_execute c).body_eq hwrites
  headers := by
    intro name hchanged
    refine exists_of_executeAll_ne (fun w => w.response.headers.getAll? name) ?_ hchanged
    exact fun c v hwrites => (v.effect_execute c).getAll?_eq hwrites
  keepsOuterVariables := by
    intro scope hscope key hkey
    change ((v.executeAll commands).1.store.clearLocal.get? scope key).isSome = true
    rw [Store.get?_clearLocal hscope]
    exact executeAll_induction (fun c _ v hv => (v.effect_execute c).isSome_get? hv) hkey
  keepsUses := by
    intro chapter hchapter
    change ((v.executeAll commands).1.store.usesOf? chapter).isSome = true
    exact executeAll_induction (fun c _ v hv => (v.effect_execute c).isSome_usesOf? hv) hchapter

end Playback
