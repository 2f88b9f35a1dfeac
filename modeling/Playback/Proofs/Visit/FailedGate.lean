import Playback.Proofs.Visit.Effect
import Playback.Proofs.Visit.Extraction

/-!
# Failed gates

A gate that fails keeps its command from the response and from all use counts. Unless the command is
optional it changes nothing. An optional command records the failure in variables: an extraction
under the name of its target, with the details that the target tells, and a replacement in the
variable that it reads.
-/

namespace Playback

open Text

/-- When the gate of a command fails: the source has matched and must not, or has not and must.
Without a gate only an extraction and a command without action need a match. -/
def Command.GateFails (c : Command) (matched : Bool) : Prop :=
  match c.gate with
  | some gate => matched = !gate.expected
  | none => matched = false ∧ ∀ template, c.action ≠ some (.replace template)

/-- The text that a failed extraction writes into a variable of its scope, if any: `false` under the
name of the target, and the details that the target tells but for single values. -/
def Target.failureText? (target : Target) (found : Finding) (key : String) : Option String :=
  if key = target.name then some "false"
  else if key = target.name ++ "?" ∧ target.tellMatched then some (boolText found.matched)
  else if key = target.name ++ "#" ∧ target.tellCount then some (natText found.captured.length)
  else if key = target.name ++ "@" ∧ target.tellPassed then some "false"
  else none

/-- The text that an optional command whose gate has failed writes into a variable, if any. -/
def Command.failureText? (c : Command) (found : Finding) (scope : Scope) (key : String) :
    Option String :=
  match c.action, c.source with
  | some (.extract target), _ =>
    if scope = target.scope then target.failureText? found key else none
  | some (.replace _), .variable place _ (some name) _ =>
    if scope = place ∧ key = name then some "false" else none
  | _, _ => none

/-- A gate fails when it does not pass. -/
theorem Command.gateFails_iff {c : Command} {matched : Bool} :
    c.GateFails matched ↔ c.passes matched = false := by
  obtain ⟨gate, source, action⟩ := c
  cases gate with
  | some gate => cases matched <;> cases hexpected : gate.expected <;> simp [GateFails, passes, *]
  | none =>
    cases action with
    | none => simp [GateFails, passes]
    | some action => cases action <;> simp [GateFails, passes, Action.isReplacement]

/-! ## Extractions -/

/-- A failed extraction writes the details that its target tells. -/
theorem Target.failureText?_key (target : Target) (found : Finding) (d : Detail) :
    target.failureText? found (d.key target.name) = target.detail? found false d := by
  have hkey (e : Detail) : d.key target.name = target.name ++ e.suffix ↔ d = e :=
    (Detail.key_injective target.name).eq_iff (b := e)
  have hvalue : d.key target.name = target.name ↔ d = .value := by
    rw [← hkey .value, Detail.suffix, String.append_empty]
  have hmatched : d.key target.name = target.name ++ "?" ↔ d = .matched := hkey .matched
  have hcount : d.key target.name = target.name ++ "#" ↔ d = .count := hkey .count
  have hpassed : d.key target.name = target.name ++ "@" ↔ d = .passed := hkey .passed
  simp only [failureText?, hvalue, hmatched, hcount, hpassed]
  cases d with
  | value => cases hfirst : found.first? <;> simp [detail?, hfirst, boolText]
  | matched | count | passed | item | last | index => simp [detail?, boolText]

/-- A failed extraction writes variables for details only. -/
theorem Target.exists_detail_of_failureText? {target : Target} {found : Finding} {key text : String}
    (h : target.failureText? found key = some text) : ∃ d, Detail.key target.name d = key := by
  unfold failureText? at h
  split at h
  · exact ⟨.value, by simp [*, Detail.key, Detail.suffix]⟩
  · split at h
    · exact ⟨.matched, by simp [*, Detail.key, Detail.suffix]⟩
    · split at h
      · exact ⟨.count, by simp [*, Detail.key, Detail.suffix]⟩
      · split at h
        · exact ⟨.passed, by simp [*, Detail.key, Detail.suffix]⟩
        · cases h

/-- The entries of a failed extraction are the texts that it writes. -/
theorem Target.mem_entries_failed_iff {target : Target} {found : Finding} {key text : String} :
    (key, text) ∈ target.entries found false ↔ target.failureText? found key = some text := by
  rw [mem_entries_iff]
  constructor
  · rintro ⟨d, rfl, hd⟩
    rw [failureText?_key, hd]
  · intro h
    obtain ⟨d, rfl⟩ := exists_detail_of_failureText? h
    exact ⟨d, rfl, (target.failureText?_key found d).symm.trans h⟩

/-- A variable after a failed extraction. -/
theorem Store.get?_setAll_failed (s : Store) (target : Target) (found : Finding) (place : Scope)
    (key : String) :
    (s.setAll target.scope (target.entries found false)).get? place key =
      (if place = target.scope then target.failureText? found key else none).or
        (s.get? place key) := by
  by_cases hplace : place = target.scope
  · subst hplace
    rw [if_pos rfl]
    cases htext : target.failureText? found key with
    | some text =>
      refine get?_setAll_of_mem (Target.mem_entries_failed_iff.2 htext) fun other hother => ?_
      rw [Target.mem_entries_failed_iff.1 hother] at htext
      exact Option.some.inj htext
    | none =>
      rw [Option.none_or]
      refine get?_setAll_of_notMem fun _ entry hentry hkey => ?_
      have hsome := Target.mem_entries_failed_iff.1 hentry
      rw [hkey, htext] at hsome
      cases hsome
  · rw [if_neg hplace, Option.none_or, get?, get?, scope_setAll_of_ne s hplace]

/-! ## Commands -/

namespace Visit

/-- A command whose gate fails is skipped unless it is optional. -/
theorem execute_of_required {v : Visit} {c : Command}
    (hfails : c.passes (v.find c.source).matched = false) (hrequired : c.isOptional = false) :
    v.execute c = (v, .skipped) := by
  simp [execute, hfails, hrequired]

/-- An optional command without action does nothing, and with one it acts on the failure. -/
theorem execute_of_optional {v : Visit} {c : Command}
    (hfails : c.passes (v.find c.source).matched = false) (hoptional : c.isOptional = true) :
    (v.execute c).1 =
      match c.action with
      | none => v
      | some (.extract target) =>
        { v with store := v.store.setAll target.scope (target.entries (v.find c.source) false) }
      | some (.replace _) => v.recordFailure c.source := by
  rcases haction : c.action with _ | ⟨template | target⟩ <;>
    simp [execute, act, hfails, hoptional, haction]

/-- What a visit is when a command whose gate has failed has been run. -/
structure FailureContained (v w : Visit) (c : Command) (outcome : Outcome) : Prop where
  /-- The request stays. -/
  request : w.request = v.request
  /-- The response stays. -/
  response : w.response = v.response
  /-- The use count of the visited chapter stays. -/
  uses : w.uses = v.uses
  /-- The use counts of chapters by name stay. -/
  chapterUses : w.store.chapterUses = v.store.chapterUses
  /-- A command that is not optional is skipped. -/
  skipped : c.isOptional = false → outcome = .skipped ∧ w = v
  /-- An optional command writes the texts of its failure, and no other variable. -/
  recorded : c.isOptional = true → ∀ scope key, w.store.get? scope key =
    (c.failureText? (v.find c.source) scope key).or (v.store.get? scope key)
  /-- Where there is no such text, it writes nothing. -/
  nothing : (∀ scope key, c.failureText? (v.find c.source) scope key = none) → w = v

section Optional

variable {v : Visit} {c : Command} {outcome : Outcome} (hoptional : c.isOptional = true)

include hoptional

/-- It is enough to look at the store that an optional command leaves. -/
theorem failureContained_of_store {s : Store} (hcounts : s.chapterUses = v.store.chapterUses)
    (hrecorded : ∀ scope key, s.get? scope key =
      (c.failureText? (v.find c.source) scope key).or (v.store.get? scope key))
    (hnothing : (∀ scope key, c.failureText? (v.find c.source) scope key = none) → s = v.store) :
    v.FailureContained { v with store := s } c outcome where
  request := rfl
  response := rfl
  uses := rfl
  chapterUses := hcounts
  skipped := by
    intro hrequired
    rw [hoptional] at hrequired
    cases hrequired
  recorded := fun _ => hrecorded
  nothing := by
    intro hnone
    rw [hnothing hnone]

/-- A command with no text to write for its failure may leave the visit as it is. -/
theorem failureContained_self
    (hnone : ∀ scope key, c.failureText? (v.find c.source) scope key = none) :
    v.FailureContained v c outcome := by
  refine failureContained_of_store hoptional (s := v.store) rfl (fun scope key => ?_) fun _ => rfl
  rw [hnone, Option.none_or]

/-- The failure of a replacement is recorded in the variable that it reads, and nowhere else. -/
theorem failureContained_recordFailure {template : Template}
    (haction : c.action = some (.replace template)) :
    v.FailureContained (v.recordFailure c.source) c outcome := by
  cases hsource : c.source with
  | «variable» place up name pattern =>
    cases name with
    | none =>
      refine failureContained_self hoptional fun _ _ => ?_
      simp [Command.failureText?, haction, hsource]
    | some name =>
      refine failureContained_of_store hoptional (v.store.chapterUses_set place name _) ?_ ?_
      · intro scope key
        simp only [Store.get?_set, Command.failureText?, haction, hsource]
        split <;> rfl
      · intro hnone
        have hname := hnone place name
        simp [Command.failureText?, haction, hsource] at hname
  | head | body | uses =>
    refine failureContained_self hoptional fun _ _ => ?_
    simp [Command.failureText?, haction, hsource]

/-- The failure of an extraction is recorded in the variables of its target. -/
theorem failureContained_setAll {target : Target} (haction : c.action = some (.extract target)) :
    v.FailureContained
      { v with store := v.store.setAll target.scope (target.entries (v.find c.source) false) }
      c outcome := by
  refine failureContained_of_store hoptional (v.store.chapterUses_setAll _ _) ?_ ?_
  · intro scope key
    rw [Store.get?_setAll_failed]
    simp only [Command.failureText?, haction]
  · intro hnone
    have hname := hnone target.scope target.name
    simp [Command.failureText?, haction, Target.failureText?] at hname

end Optional

/-- A command whose gate fails changes neither the response nor a use count, and no variable but
those in which an optional command records its failure. -/
theorem failureContained_execute {v : Visit} {c : Command}
    (hfails : c.GateFails (v.find c.source).matched) :
    v.FailureContained (v.execute c).1 c (v.execute c).2 := by
  have hpassed : c.passes (v.find c.source).matched = false := Command.gateFails_iff.1 hfails
  cases hoptional : c.isOptional with
  | false =>
    rw [execute_of_required hpassed hoptional]
    refine ⟨rfl, rfl, rfl, rfl, fun _ => ⟨rfl, rfl⟩, fun h => ?_, fun _ => rfl⟩
    rw [hoptional] at h
    cases h
  | true =>
    rw [execute_of_optional hpassed hoptional]
    rcases haction : c.action with _ | ⟨template | target⟩
    · refine failureContained_self hoptional fun _ _ => ?_
      simp only [Command.failureText?, haction]
    · exact failureContained_recordFailure hoptional haction
    · exact failureContained_setAll hoptional haction

/-- A visit whose response has a header with two values, and a variable of the chapter. -/
def remembering : Visit :=
  ⟨.empty, ⟨200, .ofPairs [("Via", "a"), ("via", "b")], "text"⟩,
    Store.empty.set .chapter "seen" "before", 3⟩

/-- An optional command that expects no such header, and would tell all that it finds. -/
def expectNone : Command :=
  ⟨some ⟨true, false⟩, .head .response (some "Via") none,
    some (.extract ⟨.chapter, "seen", true, true, true, .all⟩)⟩

/-- What it finds is told as a failure: the variable is overwritten and no value is spread. -/
theorem failureContained_remembering :
    remembering.FailureContained (remembering.execute expectNone).1 expectNone
        (remembering.execute expectNone).2 ∧
      (remembering.execute expectNone).1.store.get? .chapter "seen" = some "false" ∧
      (remembering.execute expectNone).1.store.get? .chapter "seen?" = some "true" ∧
      (remembering.execute expectNone).1.store.get? .chapter "seen#" = some "2" ∧
      (remembering.execute expectNone).1.store.get? .chapter "seen_0" = none := by
  have hfails : expectNone.GateFails (remembering.find expectNone.source).matched := by
    change (remembering.find expectNone.source).matched = !false
    decide +kernel
  have hcontained := failureContained_execute hfails
  have hrecorded := hcontained.recorded rfl .chapter
  refine ⟨hcontained, ?_, ?_, ?_, ?_⟩
  · exact (hrecorded "seen").trans (by decide +kernel)
  · exact (hrecorded "seen?").trans (by decide +kernel)
  · exact (hrecorded "seen#").trans (by decide +kernel)
  · exact (hrecorded "seen_0").trans (by decide +kernel)

end Visit

end Playback
