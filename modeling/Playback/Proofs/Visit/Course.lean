import Playback.Proofs.Chapter.Compiling
import Playback.Proofs.Command.Judging
import Playback.Proofs.Visit.CountRewrite
import Playback.Proofs.Visit.FailedGate

/-!
# How commands end

The execution of a command ends in one of eleven ways, each with rules for when it is taken and what
it leaves behind. A command that may not run leaves the visit as it was, and only such a command can
end where a source cannot be rewritten.
-/

namespace Playback

open Text

/-- How the execution of a command ends. -/
inductive Visit.Ending where
  /-- The gate fails, and the command needs it. -/
  | skipped
  /-- There is no action. -/
  | checked
  /-- A target is written. -/
  | extracted
  /-- The failure of a replacement is recorded in a variable. -/
  | failureRecorded
  /-- The failure of a replacement has no variable to be recorded in. -/
  | failureDropped
  /-- The body of the response is rewritten. -/
  | bodyRewritten
  /-- Headers of the response are rewritten. -/
  | headersRewritten
  /-- A variable is rewritten. -/
  | variableRewritten
  /-- A use count is rewritten. -/
  | usesRewritten
  /-- The replacement of a use count is no count, or one that the condition does not allow. -/
  | usesKept
  /-- The source cannot be rewritten, and the replacement is ignored. -/
  | ignored
  deriving DecidableEq, Repr

namespace Visit

/-- How a replacement whose gate has passed ends for a source, and with which visit. -/
inductive Rewrites (v : Visit) (template : Template) : Source → Ending → Visit → Prop where
  /-- The body of the response is rewritten where it matches. -/
  | body (pattern : Option Pattern) :
    Rewrites v template (.body .response pattern) .bodyRewritten
      { v with response := { v.response with
          body := replaceBody pattern (template.renderIn v.store) v.response.body } }
  /-- The headers of the response are rewritten where they match. -/
  | headers (key : Option String) (pattern : Option Pattern) :
    Rewrites v template (.head .response key pattern) .headersRewritten
      { v with response := { v.response with
          headers := replaceHeaders key pattern (template.renderIn v.store) v.response.headers } }
  /-- A variable is set to what the template renders to. -/
  | «variable» (scope : Scope) (up : Bool) (name : String) (pattern : Option Pattern) :
    Rewrites v template (.variable scope up (some name) pattern) .variableRewritten
      { v with
        store := v.store.set scope name
          (template.renderIn v.store (v.find (.variable scope up (some name) pattern)).groups) }
  /-- A use count is set to the count that the template renders to. -/
  | uses (chapter : Option String) (condition : Option CountExpr) (uses : Int)
      (hcount : template.RendersCount v.store uses)
      (hallowed : countAllowed condition uses = true) :
    Rewrites v template (.uses chapter condition) .usesRewritten (v.setUses chapter uses)
  /-- A use count is kept where the template renders to no count that is allowed. -/
  | usesKept (chapter : Option String) (condition : Option CountExpr)
      (hnone : ∀ uses, template.RendersCount v.store uses → countAllowed condition uses = false) :
    Rewrites v template (.uses chapter condition) .usesKept v
  /-- The request, and the variables of a scope as a whole, cannot be rewritten. -/
  | ignored (source : Source) (hsource : source.isRequest = true ∨ source.isNameless = true) :
    Rewrites v template source .ignored v

/-- How the execution of a command ends, and with which visit and outcome. -/
inductive Ends (v : Visit) (c : Command) : Ending → Visit × Outcome → Prop where
  /-- A gate that fails stops a command that is not optional. -/
  | skipped (hfails : c.passes (v.find c.source).matched = false)
      (hrequired : c.isOptional = false) :
    Ends v c .skipped (v, .skipped)
  /-- A command without action stops behind its gate. -/
  | checked (hruns : c.passes (v.find c.source).matched = true ∨ c.isOptional = true)
      (haction : c.action = none) :
    Ends v c .checked (v, .checked)
  /-- An extraction writes the entries of its target, and an optional one when its gate fails
  too. -/
  | extracted (target : Target) (passed : Bool)
      (hpassed : c.passes (v.find c.source).matched = passed)
      (hruns : passed = true ∨ c.isOptional = true)
      (haction : c.action = some (.extract target)) :
    Ends v c .extracted
      ({ v with store := v.store.setAll target.scope (target.entries (v.find c.source) passed) },
        .applied passed)
  /-- A replacement that fails records the failure in the variable that it reads. -/
  | failureRecorded (template : Template) (scope : Scope) (up : Bool) (name : String)
      (pattern : Option Pattern) (hfails : c.passes (v.find c.source).matched = false)
      (hoptional : c.isOptional = true) (haction : c.action = some (.replace template))
      (hsource : c.source = .variable scope up (some name) pattern) :
    Ends v c .failureRecorded
      ({ v with store := v.store.set scope name (boolText false) }, .applied false)
  /-- A replacement that fails changes nothing if it does not read a variable by name. -/
  | failureDropped (template : Template) (hfails : c.passes (v.find c.source).matched = false)
      (hoptional : c.isOptional = true) (haction : c.action = some (.replace template))
      (hsource : ∀ scope up name pattern, c.source ≠ .variable scope up (some name) pattern) :
    Ends v c .failureDropped (v, .applied false)
  /-- A replacement whose gate passes rewrites its source. -/
  | replaced (template : Template) (ending : Ending) (w : Visit)
      (hpasses : c.passes (v.find c.source).matched = true)
      (haction : c.action = some (.replace template))
      (hrewrites : Rewrites v template c.source ending w) :
    Ends v c ending (w, .applied true)

variable {v w : Visit} {c : Command} {ending other : Ending} {template : Template}
  {source : Source} {result : Visit × Outcome}

/-! ## The rules and the execution -/

/-- A use count is rewritten when there is a count that is allowed. -/
theorem replace_uses (chapter : Option String) (condition : Option CountExpr) :
    v.replace (.uses chapter condition) template (v.find (.uses chapter condition)) =
      ((countOf? (trimChars (template.renderIn v.store []).toList)).filter
        (countAllowed condition)).elim v (v.setUses chapter) := by
  simp only [replace, groups_find_uses]
  cases (countOf? (trimChars (template.renderIn v.store []).toList)).filter
    (countAllowed condition) <;> rfl

/-- Where a source cannot be rewritten, a replacement changes nothing. -/
theorem replace_unwritable (h : source.isRequest = true ∨ source.isNameless = true)
    (found : Finding) : v.replace source template found = v := by
  cases source with
  | head side key pattern =>
    cases side with
    | request => rfl
    | response => simp [Source.isRequest, Source.isNameless] at h
  | body side pattern =>
    cases side with
    | request => rfl
    | response => simp [Source.isRequest, Source.isNameless] at h
  | «variable» scope up name pattern =>
    cases name with
    | none => rfl
    | some name => simp [Source.isRequest, Source.isNameless] at h
  | uses chapter condition => simp [Source.isRequest, Source.isNameless] at h

/-- What a rule for replacements leaves is what the replacement leaves. -/
theorem Rewrites.replace_eq (h : v.Rewrites template source ending w) :
    v.replace source template (v.find source) = w := by
  cases h with
  | body | headers | «variable» => rfl
  | uses chapter condition uses hcount hallowed =>
    rw [replace_uses, Template.rendersCount_iff.1 hcount, Option.filter_some, if_pos hallowed,
      Option.elim_some]
  | usesKept chapter condition hnone =>
    have hfilter : (countOf? (trimChars (template.renderIn v.store []).toList)).filter
        (countAllowed condition) = none := by
      refine Option.filter_eq_none_iff.2 fun uses huses hallowed => ?_
      rw [hnone uses (Template.rendersCount_iff.2 huses)] at hallowed
      cases hallowed
    rw [replace_uses, hfilter, Option.elim_none]
  | ignored source hsource => exact replace_unwritable hsource _

/-- Only what cannot be rewritten is ignored. -/
theorem Rewrites.unwritable (h : v.Rewrites template source .ignored w) :
    source.isRequest = true ∨ source.isNameless = true := by
  cases h with
  | ignored source hsource => exact hsource

/-- There is a rule for every replacement. -/
theorem exists_rewrites (v : Visit) (template : Template) (source : Source) :
    ∃ ending w, v.Rewrites template source ending w := by
  cases source with
  | head side key pattern =>
    cases side with
    | request => exact ⟨_, _, .ignored _ (.inl rfl)⟩
    | response => exact ⟨_, _, .headers key pattern⟩
  | body side pattern =>
    cases side with
    | request => exact ⟨_, _, .ignored _ (.inl rfl)⟩
    | response => exact ⟨_, _, .body pattern⟩
  | «variable» scope up name pattern =>
    cases name with
    | none => exact ⟨_, _, .ignored _ (.inr rfl)⟩
    | some name => exact ⟨_, _, .variable scope up name pattern⟩
  | uses chapter condition =>
    by_cases h : ∃ uses, template.RendersCount v.store uses ∧ countAllowed condition uses = true
    · obtain ⟨uses, hcount, hallowed⟩ := h
      exact ⟨_, _, .uses chapter condition uses hcount hallowed⟩
    · refine ⟨_, _, .usesKept chapter condition fun uses hcount => ?_⟩
      exact Bool.eq_false_iff.2 fun hallowed => h ⟨uses, hcount, hallowed⟩

/-- No two rules end a replacement differently. -/
theorem Rewrites.ending_unique {w' : Visit} (h : v.Rewrites template source ending w)
    (h' : v.Rewrites template source other w') : ending = other := by
  cases h with
  | body =>
    cases h' with
    | body => rfl
    | ignored source hsource => simp [Source.isRequest, Source.isNameless] at hsource
  | headers =>
    cases h' with
    | headers => rfl
    | ignored source hsource => simp [Source.isRequest, Source.isNameless] at hsource
  | «variable» =>
    cases h' with
    | «variable» => rfl
    | ignored source hsource => simp [Source.isRequest, Source.isNameless] at hsource
  | uses chapter condition uses hcount hallowed =>
    cases h' with
    | uses => rfl
    | usesKept chapter condition hnone =>
      rw [hnone uses hcount] at hallowed
      cases hallowed
    | ignored source hsource => simp [Source.isRequest, Source.isNameless] at hsource
  | usesKept chapter condition hnone =>
    cases h' with
    | usesKept => rfl
    | uses chapter condition uses hcount hallowed =>
      rw [hnone uses hcount] at hallowed
      cases hallowed
    | ignored source hsource => simp [Source.isRequest, Source.isNameless] at hsource
  | ignored source hsource =>
    cases h' with
    | ignored => rfl
    | body | headers | «variable» | uses | usesKept =>
      simp [Source.isRequest, Source.isNameless] at hsource

/-- What a rule for commands leaves is what the execution leaves. -/
theorem Ends.execute_eq (h : v.Ends c ending result) : v.execute c = result := by
  cases h with
  | skipped hfails hrequired => exact execute_of_required hfails hrequired
  | checked hruns haction => rcases hruns with h | h <;> simp [execute, haction, h]
  | extracted target passed hpassed hruns haction =>
    rcases hruns with rfl | h
    · simp [execute, act, haction, hpassed]
    · simp [execute, act, haction, hpassed, h]
  | failureRecorded template scope up name pattern hfails hoptional haction hsource =>
    rw [hsource] at hfails
    simp [execute, act, recordFailure, haction, hfails, hoptional, hsource]
  | failureDropped template hfails hoptional haction hsource =>
    have hrecord : v.recordFailure c.source = v := by
      rw [recordFailure]
      exact hsource
    simp [execute, act, haction, hfails, hoptional, hrecord]
  | replaced template ending w hpasses haction hrewrites =>
    rw [execute_of_passes haction hpasses, hrewrites.replace_eq]

/-- There is a rule for every execution. -/
theorem exists_ends (v : Visit) (c : Command) : ∃ ending, v.Ends c ending (v.execute c) := by
  have hrule : ∃ ending result, v.Ends c ending result := by
    cases hpassed : c.passes (v.find c.source).matched with
    | true =>
      rcases haction : c.action with _ | ⟨template | target⟩
      · exact ⟨_, _, .checked (.inl hpassed) haction⟩
      · obtain ⟨ending, w, hrewrites⟩ := exists_rewrites v template c.source
        exact ⟨_, _, .replaced template ending w hpassed haction hrewrites⟩
      · exact ⟨_, _, .extracted target true hpassed (.inl rfl) haction⟩
    | false =>
      cases hoptional : c.isOptional with
      | false => exact ⟨_, _, .skipped hpassed hoptional⟩
      | true =>
        rcases haction : c.action with _ | ⟨template | target⟩
        · exact ⟨_, _, .checked (.inr hoptional) haction⟩
        · by_cases hsource : ∃ scope up name pattern,
              c.source = .variable scope up (some name) pattern
          · obtain ⟨scope, up, name, pattern, hsource⟩ := hsource
            exact ⟨_, _, .failureRecorded template scope up name pattern hpassed hoptional haction
              hsource⟩
          · refine ⟨_, _, .failureDropped template hpassed hoptional haction ?_⟩
            exact fun scope up name pattern h => hsource ⟨scope, up, name, pattern, h⟩
        · exact ⟨_, _, .extracted target false hpassed (.inr hoptional) haction⟩
  obtain ⟨ending, result, h⟩ := hrule
  exact ⟨ending, h.execute_eq ▸ h⟩

/-- No two rules end a command differently. -/
theorem Ends.ending_unique {result' : Visit × Outcome} (h : v.Ends c ending result)
    (h' : v.Ends c other result') : ending = other := by
  cases h with
  | replaced template ending w hpasses haction hrewrites =>
    cases h' with
    | replaced template' ending' w' hpasses' haction' hrewrites' =>
      obtain rfl : template = template' := by simpa [haction] using haction'
      exact hrewrites.ending_unique hrewrites'
    | skipped | checked | extracted | failureRecorded | failureDropped => simp_all
  | failureRecorded template scope up name pattern hfails hoptional haction hsource =>
    cases h' with
    | failureDropped template' hfails' hoptional' haction' hnone =>
      exact absurd hsource (hnone scope up name pattern)
    | failureRecorded => rfl
    | skipped | checked | extracted | replaced => simp_all
  | failureDropped template hfails hoptional haction hnone =>
    cases h' with
    | failureRecorded template' scope up name pattern hfails' hoptional' haction' hsource =>
      exact absurd hsource (hnone scope up name pattern)
    | failureDropped => rfl
    | skipped | checked | extracted | replaced => simp_all
  | skipped | checked | extracted => cases h' <;> simp_all

/-- Every execution ends in one way. -/
theorem existsUnique_ends (v : Visit) (c : Command) : ∃! ending, v.Ends c ending (v.execute c) := by
  obtain ⟨ending, h⟩ := v.exists_ends c
  exact ⟨ending, h, fun other hother => hother.ending_unique h⟩

end Visit

/-! ## Commands that may not run -/

/-- A command may not run if it neither tests nor acts, or if it replaces what cannot be
rewritten. -/
theorem Command.check_eq_error_iff {c : Command} {fault : SemanticFault} :
    c.check = .error fault ↔
      fault = .nothingToDo ∧ c.gate = none ∧ c.action = none ∨
      fault = .selfWriteOnRequest ∧ c.isReplacement = true ∧ c.source.isRequest = true ∨
      fault = .selfWriteOnNamelessVariable ∧ c.isReplacement = true ∧
        c.source.isNameless = true := by
  obtain ⟨gate, source, action⟩ := c
  have hsource : source.isRequest = true → source.isNameless = false := by
    cases source <;> simp [Source.isRequest, Source.isNameless]
  rcases action with _ | ⟨template | target⟩
  · cases gate <;> cases fault <;> simp [check, testsOrActs, isReplacement]
  · cases hrequest : source.isRequest <;> cases hnameless : source.isNameless <;> cases fault <;>
      simp_all [check, testsOrActs, isReplacement, Action.isReplacement]
  · simp [check, testsOrActs, isReplacement, Action.isReplacement]

namespace Visit

variable {v : Visit} {c : Command}

/-- A replacement is ignored when its gate passes and the command may not run. -/
theorem ends_ignored_iff : v.Ends c .ignored (v.execute c) ↔
    c.passes (v.find c.source).matched = true ∧
      (c.check = .error .selfWriteOnRequest ∨ c.check = .error .selfWriteOnNamelessVariable) := by
  have hcheck : (c.check = .error .selfWriteOnRequest ∨
      c.check = .error .selfWriteOnNamelessVariable) ↔
        c.isReplacement = true ∧ (c.source.isRequest = true ∨ c.source.isNameless = true) := by
    simp [Command.check_eq_error_iff, and_or_left]
  rw [hcheck]
  constructor
  · intro h
    generalize v.execute c = result at h
    cases h with
    | replaced template ending w hpasses haction hrewrites =>
      exact ⟨hpasses, Command.isReplacement_iff.2 ⟨template, haction⟩, hrewrites.unwritable⟩
  · rintro ⟨hpasses, hreplacement, hsource⟩
    obtain ⟨template, haction⟩ := Command.isReplacement_iff.1 hreplacement
    have hends : v.Ends c .ignored (v, .applied true) :=
      .replaced template .ignored v hpasses haction (.ignored c.source hsource)
    rw [hends.execute_eq]
    exact hends

/-- A command that neither tests nor acts changes nothing. -/
theorem execute_of_action_eq_none (haction : c.action = none) : (v.execute c).1 = v := by
  obtain ⟨ending, hends⟩ := v.exists_ends c
  generalize v.execute c = result at hends ⊢
  cases hends with
  | skipped | checked => rfl
  | extracted target passed hpassed hruns haction' => simp [haction] at haction'
  | failureRecorded template scope up name pattern hfails hoptional haction' =>
    simp [haction] at haction'
  | failureDropped template hfails hoptional haction' => simp [haction] at haction'
  | replaced template ending w hpasses haction' => simp [haction] at haction'

/-- A replacement of what cannot be rewritten changes nothing, whether its gate passes or not. -/
theorem execute_of_unwritable (hreplacement : c.isReplacement = true)
    (hsource : c.source.isRequest = true ∨ c.source.isNameless = true) :
    (v.execute c).1 = v := by
  obtain ⟨template, haction⟩ := Command.isReplacement_iff.1 hreplacement
  obtain ⟨ending, hends⟩ := v.exists_ends c
  generalize v.execute c = result at hends ⊢
  cases hends with
  | skipped | checked | failureDropped => rfl
  | extracted target passed hpassed hruns haction' => simp [haction] at haction'
  | failureRecorded template' scope up name pattern hfails hoptional haction' hvariable =>
    simp [hvariable, Source.isRequest, Source.isNameless] at hsource
  | replaced template' ending w hpasses haction' hrewrites =>
    rw [← hrewrites.replace_eq]
    exact replace_unwritable hsource _

/-- A command that may not run leaves the visit as it was. -/
theorem execute_of_check_eq_error {fault : SemanticFault} (h : c.check = .error fault) :
    (v.execute c).1 = v := by
  rcases Command.check_eq_error_iff.1 h with
    ⟨-, -, haction⟩ | ⟨-, hreplacement, hrequest⟩ | ⟨-, hreplacement, hnameless⟩
  · exact execute_of_action_eq_none haction
  · exact execute_of_unwritable hreplacement (.inl hrequest)
  · exact execute_of_unwritable hreplacement (.inr hnameless)

/-- Commands that may not run leave the visit as it was, however many they are. -/
theorem executeAll_of_check_eq_error {commands : List Command}
    (h : ∀ c ∈ commands, ∃ fault, c.check = .error fault) : (v.executeAll commands).1 = v := by
  refine executeAll_induction (P := (· = v)) (fun c hc w hw => ?_) rfl
  obtain ⟨fault, hfault⟩ := h c hc
  rw [execute_of_check_eq_error hfault, hw]

/-- A command that may run is not ignored. -/
theorem not_ends_ignored_of_check_eq_ok (h : c.check = .ok ()) :
    ¬ v.Ends c .ignored (v.execute c) := by
  rw [ends_ignored_iff, h]
  rintro ⟨-, hfault | hfault⟩ <;> cases hfault

/-- No command of a sequence that compiles is ever ignored. -/
theorem not_ends_ignored_of_compile {lines : List String} {commands : Sequence}
    (h : Sequence.compile lines = .ok commands) (v : Visit) :
    ∀ c ∈ commands, ¬ v.Ends c .ignored (v.execute c) := by
  intro c hc
  have hcommands : lines.map Command.compile = commands.map .ok :=
    Sequence.compileFrom_eq_ok_iff.1 h
  have hmem : Except.ok c ∈ lines.map Command.compile := hcommands ▸ List.mem_map_of_mem hc
  obtain ⟨line, -, hline⟩ := List.mem_map.1 hmem
  exact not_ends_ignored_of_check_eq_ok (Command.compile_eq_ok_iff.1 hline).2

/-- A command that may not run leaves the visit as it was, whatever its gate decides. A command that
may run does not end where a source that cannot be rewritten is ignored. -/
theorem inert_execute (v : Visit) (c : Command) :
    (∀ fault, c.check = .error fault → (v.execute c).1 = v) ∧
      (c.check = .ok () → ∀ ending, v.Ends c ending (v.execute c) → ending ≠ .ignored) := by
  constructor
  · exact fun fault hfault => execute_of_check_eq_error hfault
  · rintro hok ending hends rfl
    exact not_ends_ignored_of_check_eq_ok hok hends

/-- A visit without a request text, with a response text and a variable. -/
def answered : Visit :=
  ⟨.empty, ⟨200, .empty, "text"⟩, Store.empty.set .chapter "seen" "before", 3⟩

/-- A command that would write into the request where it has no text. -/
def writeRequest : Command :=
  ⟨some ⟨true, false⟩, .body .request none, some (.replace ⟨"x"⟩)⟩

/-- A command that writes into the response. -/
def writeResponse : Command :=
  ⟨none, .body .response none, some (.replace ⟨"x"⟩)⟩

/-- The gate of the first passes, and yet it changes nothing; the second is not ignored. -/
theorem inert_answered :
    (answered.execute writeRequest).2 = .applied true ∧
      (answered.execute writeRequest).1 = answered ∧
      (answered.execute writeResponse).1.response.body = "x" ∧
      ¬ answered.Ends writeResponse .ignored (answered.execute writeResponse) := by
  have hrequest : writeRequest.check = .error .selfWriteOnRequest := by decide
  have hresponse : writeResponse.check = .ok () := by decide
  refine ⟨by decide +kernel, (inert_execute answered writeRequest).1 _ hrequest,
    by decide +kernel, fun hends => ?_⟩
  exact (inert_execute answered writeResponse).2 hresponse _ hends rfl

end Visit

end Playback
