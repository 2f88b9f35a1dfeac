import Mathlib.Data.List.Forall2
import Playback.Command.Build
import Playback.Proofs.Pattern.Matches
import Playback.Proofs.Visit.HeaderRewrite

/-!
# Reading headers

A source that is a header, or all headers, looks at each of the selected values on its own. Where
its pattern has no groups it captures, of every value in which the pattern matches, the part that
the first match takes. The values are captured as a whole only when each of these matches takes all
of its value.
-/

namespace Playback

/-- The text that the first match in a value takes. Without a pattern this is the value itself. -/
def takenIn? (pattern : Option Pattern) (value : String) : Option String :=
  match pattern with
  | some p => (p.find? value).map (·.whole)
  | none => some value

/-- The values of the headers that a key selects, in order. -/
def Headers.selected (h : Headers) (key : Option String) : List String :=
  (h.pairs.filter fun pair => selects key pair.1).map (·.2)

/-- What is taken of a value is a part of it. -/
theorem infix_of_takenIn? {pattern : Option Pattern} {value text : String}
    (h : takenIn? pattern value = some text) : text.toList <:+: value.toList := by
  cases pattern with
  | none =>
    cases h
    exact List.infix_rfl
  | some p =>
    obtain ⟨found, hfound, rfl⟩ := Option.map_eq_some_iff.1 h
    exact Pattern.whole_infix_of_find? hfound

/-- From a list of values, a pattern without groups captures what is taken of each. -/
theorem Finding.captured_inValues {pattern : Option Pattern}
    (hgroups : ∀ p ∈ pattern, p.groupCount = 0) (values : List String) :
    (inValues pattern values).captured = values.filterMap (takenIn? pattern) := by
  cases pattern with
  | none => exact List.filterMap_some.symm
  | some p =>
    rw [inValues, ofMatches, List.map_filterMap]
    refine List.filterMap_congr fun value _ => ?_
    cases hfound : p.find? value with
    | none => simp [takenIn?, hfound]
    | some found =>
      have hfirst := Pattern.first_of_find? (hgroups p rfl) hfound
      simp [takenIn?, hfound, hfirst]

/-! ## Parts and wholes -/

section Parts

variable {take : String → Option String}

/-- What is taken of values stands in the order of the values of which something is taken. -/
theorem forall₂_filterMap {Part : String → String → Prop}
    (hpart : ∀ value text, take value = some text → Part text value) (values : List String) :
    List.Forall₂ Part (values.filterMap take) (values.filter fun value => (take value).isSome) := by
  induction values with
  | nil => exact .nil
  | cons value values ih =>
    cases htake : take value with
    | none => simpa [htake] using ih
    | some text =>
      have hkept : (take value).isSome = true := Option.isSome_of_eq_some htake
      rw [List.filterMap_cons_some htake, List.filter_cons, if_pos hkept]
      exact .cons (hpart value text htake) ih

/-- What is taken of values is these values when all of each is taken. -/
theorem filterMap_eq_filter_iff (values : List String) :
    (values.filterMap take = values.filter fun value => (take value).isSome) ↔
      ∀ value ∈ values, ∀ text, take value = some text → text = value := by
  induction values with
  | nil => simp
  | cons value values ih =>
    rw [List.forall_mem_cons, ← ih]
    cases htake : take value with
    | none => simp [htake]
    | some text => simp [htake]

end Parts

/-! ## Head sources -/

/-- What a source captures that is a header, or all headers, with a pattern or without. -/
structure Visit.CapturesTaken (v : Visit) (side : Side) (key : Option String)
    (pattern : Option Pattern) : Prop where
  /-- Of each selected value in which the pattern matches it captures what the first match takes. -/
  captured : (v.find (.head side key pattern)).captured =
    ((v.headers side).selected key).filterMap (takenIn? pattern)
  /-- In order, this is a part of each value in which the pattern matches. -/
  parts : List.Forall₂ (fun text value => text.toList <:+: value.toList)
    (v.find (.head side key pattern)).captured
    (((v.headers side).selected key).filter fun value => (takenIn? pattern value).isSome)
  /-- The first captured text is taken of the first value in which the pattern matches. -/
  first : (v.find (.head side key pattern)).first? =
    ((v.headers side).selected key).findSome? (takenIn? pattern)
  /-- It captures the values themselves exactly when all of each is taken. -/
  whole_iff : ((v.find (.head side key pattern)).captured =
      ((v.headers side).selected key).filter fun value => (takenIn? pattern value).isSome) ↔
    ∀ value ∈ (v.headers side).selected key, ∀ text,
      takenIn? pattern value = some text → text = value

/-- A source that is a header, or all headers, and whose pattern has no groups captures the parts
that are taken of the selected values, and the values themselves only where all of each is taken. -/
theorem Visit.capturesTaken_find {v : Visit} {side : Side} {key : Option String}
    {pattern : Option Pattern} (hgroups : ∀ p ∈ pattern, p.groupCount = 0) :
    v.CapturesTaken side key pattern := by
  have hcaptured : (v.find (.head side key pattern)).captured =
      ((v.headers side).selected key).filterMap (takenIn? pattern) := by
    rw [find_head, Finding.captured_inValues hgroups, Headers.valuesOf_eq, Headers.selected]
  constructor
  case captured => exact hcaptured
  case parts =>
    rw [hcaptured]
    exact forall₂_filterMap (fun _ _ => infix_of_takenIn?) _
  case first => rw [Finding.first?, hcaptured, List.head?_filterMap]
  case whole_iff =>
    rw [hcaptured]
    exact filterMap_eq_filter_iff _

/-- A pattern that matches a letter. -/
def Pattern.oneM : Pattern where
  text := "m"
  tree := .chars (.single 'm')
  tree_eq := rfl

/-- A visit whose request has a header with three values. -/
def Visit.hosted : Visit :=
  ⟨⟨"", "", .ofPairs [("Host", "example.com"), ("host", "x"), ("HOST", "m")], ""⟩, .empty, .empty,
    0⟩

/-- A command that tests whether a value of the header has the letter. -/
def Command.askHost : Command :=
  ⟨some ⟨false, true⟩, .head .request (some "Host") (some Pattern.oneM), none⟩

/-- The pattern matches in two of the values, of which one is captured as a whole. -/
theorem Visit.capturesTaken_hosted :
    Pattern.oneM.groupCount = 0 ∧
      hosted.CapturesTaken .request (some "Host") (some Pattern.oneM) ∧
      (hosted.find Command.askHost.source).first? = some "m" := by
  have hgroups : ∀ p ∈ some Pattern.oneM, p.groupCount = 0 := by
    intro p hp
    cases hp
    rfl
  have htaken : hosted.CapturesTaken .request (some "Host") (some Pattern.oneM) :=
    capturesTaken_find hgroups
  exact ⟨rfl, htaken, htaken.first.trans (by decide +kernel)⟩

/-- The values in which the pattern matches are not captured themselves: of the first one only a
letter is. -/
theorem Visit.captured_ne_values_hosted :
    Command.compile "?request:head[Host]:\x7bm\x7d" = .ok Command.askHost ∧
      Pattern.oneM.groupCount = 0 ∧
      (hosted.find Command.askHost.source).captured = ["m", "m"] ∧
      ((hosted.headers .request).selected (some "Host")).filter
        (fun value => (takenIn? (some Pattern.oneM) value).isSome) = ["example.com", "m"] ∧
      (hosted.find Command.askHost.source).captured ≠
        ((hosted.headers .request).selected (some "Host")).filter
          fun value => (takenIn? (some Pattern.oneM) value).isSome := by
  have hcaptured : (hosted.find Command.askHost.source).captured = ["m", "m"] := by
    decide +kernel
  have hvalues : ((hosted.headers .request).selected (some "Host")).filter
      (fun value => (takenIn? (some Pattern.oneM) value).isSome) = ["example.com", "m"] := by
    decide +kernel
  refine ⟨by decide +kernel, rfl, hcaptured, hvalues, ?_⟩
  rw [hcaptured, hvalues]
  decide

end Playback
