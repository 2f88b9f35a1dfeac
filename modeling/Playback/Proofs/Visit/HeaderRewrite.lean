import Playback.Proofs.Chapter.ResponseShape
import Playback.Proofs.Headers
import Playback.Proofs.Visit.Effect

/-!
# Rewriting headers of the response

A rewrite of headers replaces the values that its source has captured, each as a whole and by the
template with the groups of the first match in it. The values of other headers and those in which
the pattern does not match stay, so that a rewrite that has captured nothing changes nothing.
-/

namespace Playback

/-- The texts of the first match in a value and of its groups, where a group that took no part is
empty. Without a pattern the match is the value itself. -/
def groupsIn? (pattern : Option Pattern) (value : String) : Option (List String) :=
  match pattern with
  | some p => (p.find? value).map fun found => found.whole :: found.groups.map (·.getD "")
  | none => some [value]

/-- A value in which the pattern matches is replaced. -/
theorem replaceValue_of_groups {pattern : Option Pattern} {value : String} {groups : List String}
    (h : groupsIn? pattern value = some groups) (render : List String → String) :
    replaceValue pattern render value = render groups := by
  cases pattern with
  | none =>
    cases h
    rfl
  | some p =>
    obtain ⟨found, hfound, rfl⟩ := Option.map_eq_some_iff.1 h
    rw [replaceValue, hfound]
    rfl

/-- Any other value stays. -/
theorem replaceValue_of_none {pattern : Option Pattern} {value : String}
    (h : groupsIn? pattern value = none) (render : List String → String) :
    replaceValue pattern render value = value := by
  cases pattern with
  | none => cases h
  | some p =>
    rw [replaceValue, Option.map_eq_none_iff.1 h]
    rfl

/-! ## What a source captures -/

/-- From a list of values as many are captured as there are values in which the pattern matches. -/
theorem Finding.length_captured_inValues (pattern : Option Pattern) (values : List String) :
    (inValues pattern values).captured.length =
      values.countP fun value => (groupsIn? pattern value).isSome := by
  cases pattern with
  | none => simp [inValues, groupsIn?]
  | some p =>
    simp only [inValues, ofMatches, groupsIn?, List.length_map, List.length_filterMap_eq_countP,
      Option.isSome_map]

/-- A source that is a header, or all headers, looks at the values that its key selects. -/
theorem Visit.find_head (v : Visit) (side : Side) (key : Option String)
    (pattern : Option Pattern) :
    v.find (.head side key pattern) = .inValues pattern ((v.headers side).valuesOf key) := by
  cases key with
  | none => rfl
  | some key =>
    rw [find, Headers.valuesOf]
    cases (v.headers side).getAll? key with
    | some values => rfl
    | none => cases pattern <;> rfl

/-- A source that is a header, or all headers, captures as many values as the selected headers have
in which its pattern matches. -/
theorem Visit.length_captured_find_head (v : Visit) (side : Side) (key : Option String)
    (pattern : Option Pattern) :
    (v.find (.head side key pattern)).captured.length =
      (v.headers side).pairs.countP fun pair =>
        Headers.selects key pair.1 && (groupsIn? pattern pair.2).isSome := by
  rw [find_head, Finding.length_captured_inValues, Headers.valuesOf_eq, List.countP_map,
    List.countP_filter]
  refine List.countP_congr fun pair _ => ?_
  rw [Function.comp_apply, Bool.and_comm]

/-! ## What a rewrite does to headers -/

/-- A replacement in headers goes through the values of the selected ones. -/
theorem entries_replaceHeaders (key : Option String) (pattern : Option Pattern)
    (render : List String → String) (h : Headers) :
    (replaceHeaders key pattern render h).entries = h.entries.map fun e =>
      if Headers.selects key e.name then ⟨e.name, e.values.map (replaceValue pattern render)⟩
      else e := by
  cases key with
  | none => rfl
  | some key => rfl

/-- A replacement in headers replaces the values of the selected ones in which the pattern matches.
-/
theorem pairs_replaceHeaders (key : Option String) (pattern : Option Pattern)
    (render : List String → String) (h : Headers) :
    (replaceHeaders key pattern render h).pairs = h.pairs.map fun pair =>
      (pair.1, if Headers.selects key pair.1 then replaceValue pattern render pair.2
        else pair.2) := by
  rw [Headers.pairs, entries_replaceHeaders, List.flatMap_map, Headers.pairs, List.map_flatMap]
  refine congrArg (List.flatMap · h.entries) (funext fun e => ?_)
  cases hselects : Headers.selects key e.name with
  | true => simp [hselects, Function.comp_def]
  | false => simp [hselects, Function.comp_def]

/-- A replacement in headers that has no value to replace keeps the headers. -/
theorem replaceHeaders_eq_self {key : Option String} {pattern : Option Pattern} {h : Headers}
    (hnone : ∀ pair ∈ h.pairs, Headers.selects key pair.1 = true → groupsIn? pattern pair.2 = none)
    (render : List String → String) : replaceHeaders key pattern render h = h := by
  apply Headers.ext
  rw [entries_replaceHeaders]
  refine (List.map_congr_left fun e he => ?_).trans (List.map_id h.entries)
  split
  · rename_i hselects
    have hvalues : e.values.map (replaceValue pattern render) = e.values.map id := by
      refine List.map_congr_left fun value hvalue => ?_
      have hmem : (e.name, value) ∈ h.pairs :=
        List.mem_flatMap.2 ⟨e, he, List.mem_map_of_mem hvalue⟩
      exact replaceValue_of_none (hnone (e.name, value) hmem hselects) render
    rw [hvalues, List.map_id]
    rfl
  · rfl

/-! ## Rewrites -/

/-- What a visit is when headers of its response have been rewritten. -/
structure Visit.HeadersRewritten (v w : Visit) (key : Option String) (pattern : Option Pattern)
    (template : Template) : Prop where
  /-- The value at a place becomes the template with the groups of the first match in it, where the
  header is selected and the pattern matches. -/
  rewritten : ∀ (i : Nat) name value groups, v.response.headers.pairs[i]? = some (name, value) →
    Headers.selects key name = true → groupsIn? pattern value = some groups →
    w.response.headers.pairs[i]? = some (name, template.renderIn v.store groups)
  /-- The value at any other place stays. -/
  kept : ∀ (i : Nat) name value, v.response.headers.pairs[i]? = some (name, value) →
    (Headers.selects key name = false ∨ groupsIn? pattern value = none) →
    w.response.headers.pairs[i]? = some (name, value)
  /-- The headers and the numbers of their values stay, and so do the places of the values. -/
  shape : w.response.headers.shape = v.response.headers.shape
  /-- There are as many places with a new value as values that the source has captured. -/
  number : (v.find (.head .response key pattern)).captured.length =
    v.response.headers.pairs.countP fun pair =>
      Headers.selects key pair.1 && (groupsIn? pattern pair.2).isSome
  /-- Where the source has captured nothing, nothing changes. -/
  unmatched : (v.find (.head .response key pattern)).matched = false → w = v
  /-- Nothing but headers has changed. -/
  others : w = { v with response := { v.response with headers := w.response.headers } }

/-- A replacement of response headers whose gate passes rewrites exactly the values that its source
has captured, each as a whole. -/
theorem Visit.headersRewritten_execute {v : Visit} {c : Command} {key : Option String}
    {pattern : Option Pattern} {template : Template}
    (hsource : c.source = .head .response key pattern)
    (haction : c.action = some (.replace template))
    (hpassed : c.passes (v.find c.source).matched = true) :
    (v.execute c).2 = .applied true ∧ v.HeadersRewritten (v.execute c).1 key pattern template := by
  rw [execute_of_passes haction hpassed, hsource]
  let render := template.renderIn v.store
  have hplace (i : Nat) (name value : String)
      (h : v.response.headers.pairs[i]? = some (name, value)) :
      (replaceHeaders key pattern render v.response.headers).pairs[i]? =
        some (name, if Headers.selects key name then replaceValue pattern render value
          else value) := by
    rw [pairs_replaceHeaders, List.getElem?_map, h, Option.map_some]
  have hnumber := v.length_captured_find_head .response key pattern
  refine ⟨rfl, ?_⟩
  constructor
  case rewritten =>
    intro i name value groups hvalue hselects hgroups
    refine (hplace i name value hvalue).trans ?_
    rw [if_pos hselects, replaceValue_of_groups hgroups]
  case kept =>
    intro i name value hvalue hother
    refine (hplace i name value hvalue).trans ?_
    rcases hother with hother | hother
    · rw [hother, if_neg Bool.false_ne_true]
    · rw [replaceValue_of_none hother, ite_self]
  case shape => exact shape_replaceHeaders key pattern render v.response.headers
  case number => exact hnumber
  case unmatched =>
    intro hmiss
    rw [Finding.matched_eq_false_iff.1 hmiss, List.length_nil, eq_comm, List.countP_eq_zero]
      at hnumber
    have hkept : replaceHeaders key pattern render v.response.headers = v.response.headers := by
      refine replaceHeaders_eq_self (fun pair hpair hselects => ?_) render
      have hnot := hnumber pair hpair
      rwa [hselects, Bool.true_and, Option.not_isSome_iff_eq_none] at hnot
    change { v with response := { v.response with
      headers := replaceHeaders key pattern render v.response.headers } } = v
    rw [hkept]
  case others => rfl

/-- A pattern that matches an equals sign and a letter behind it. -/
def Pattern.assigned : Pattern where
  text := "=(x)?"
  tree := .both (.chars (.single '=')) (.loop (.group 1 (.chars (.single 'x'))) 0 (some 1) true)
  tree_eq := rfl

/-- A visit whose response has two headers, one of them given under several spellings. -/
def Visit.spelled : Visit :=
  ⟨.empty, ⟨200, .ofPairs [("Set-Cookie", "a=x; b=y"), ("Via", "c=x"), ("set-cookie", "d"),
    ("SET-COOKIE", "e=")], ""⟩, .empty, 0⟩

/-- A command that rewrites the cookies with an equals sign. -/
def Command.markCookies : Command :=
  ⟨none, .head .response (some "set-Cookie") (some Pattern.assigned),
    some (.replace ⟨"<@\x7b1\x7d>"⟩)⟩

/-- Two of the cookies have one; a rewritten value is replaced as a whole, by its first match. -/
theorem Visit.headersRewritten_spelled :
    Visit.spelled.HeadersRewritten (Visit.spelled.execute Command.markCookies).1
        (some "set-Cookie") (some Pattern.assigned) ⟨"<@\x7b1\x7d>"⟩ ∧
      (Visit.spelled.find Command.markCookies.source).captured = ["x", "="] ∧
      (Visit.spelled.execute Command.markCookies).1.response.headers.entries =
        [⟨"Set-Cookie", ["<x>", "d", "<>"]⟩, ⟨"Via", ["c=x"]⟩] := by
  have hpassed : Command.markCookies.passes
      (Visit.spelled.find Command.markCookies.source).matched = true := by decide +kernel
  exact ⟨(headersRewritten_execute rfl rfl hpassed).2, by decide +kernel, by decide +kernel⟩

end Playback
