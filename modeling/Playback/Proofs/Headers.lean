import Playback.Headers

/-!
# Selecting and changing headers

A change of the values of one header is seen under its name only, in whatever spelling. A key
selects the values of the one header that it names, and no key selects those of all headers.
-/

namespace Playback

/-- Two names that are the same as a third one are the same. -/
theorem sameName_of_sameName {a b c : String} (h : sameName a b = true) (h' : sameName a c = true) :
    sameName b c = true := by
  rw [sameName, beq_iff_eq] at h h' ⊢
  exact h.symm.trans h'

theorem sameName_comm (a b : String) : sameName a b = sameName b a :=
  Bool.beq_comm

/-- A change of the values of one header leaves the others alone. -/
theorem Headers.getAll?_update (h : Headers) {key name : String} (hname : sameName key name = false)
    (f : List String → List String) : (h.update key f).getAll? name = h.getAll? name := by
  obtain ⟨entries, hdistinct⟩ := h
  simp only [Headers.getAll?, Headers.update]
  clear hdistinct
  induction entries with
  | nil => rfl
  | cons e entries ih =>
    rw [List.map_cons, List.find?_cons, List.find?_cons]
    cases hkey : sameName e.name key with
    | true =>
      have he : sameName e.name name = false := by
        rw [← Bool.not_eq_true]
        intro he
        rw [sameName_of_sameName hkey he] at hname
        cases hname
      simp only [if_true, he]
      exact ih
    | false =>
      cases he : sameName e.name name with
      | true => simp [he]
      | false => simpa [he] using ih

/-- Of headers with distinct names one at most has a given name. -/
theorem NamesDistinct.filter_eq {entries : List Header} (h : NamesDistinct entries) (key : String) :
    entries.filter (fun e => sameName e.name key) =
      (entries.find? fun e => sameName e.name key).toList := by
  induction entries with
  | nil => rfl
  | cons e entries ih =>
    obtain ⟨he, hrest⟩ := List.pairwise_cons.1 h
    rw [List.filter_cons, List.find?_cons]
    cases hkey : sameName e.name key with
    | false => exact ih hrest
    | true =>
      have hnone : entries.filter (fun e => sameName e.name key) = [] := by
        refine List.filter_eq_nil_iff.2 fun other hother hsame => ?_
        have hdistinct := he other hother
        rw [sameName_comm] at hkey hsame
        rw [sameName_of_sameName hkey hsame] at hdistinct
        cases hdistinct
      simp only [if_true, hnone, Option.toList_some]

namespace Headers

/-- All values in order, each with the name of its header. -/
def pairs (h : Headers) : List (String × String) :=
  h.entries.flatMap fun e => e.values.map (e.name, ·)

/-- The values of the header with a key, or of all headers. -/
def valuesOf (h : Headers) : Option String → List String
  | some key => (h.getAll? key).getD []
  | none => h.allValues

/-- Whether a header is selected by a key in any spelling, or by no key at all. -/
def selects (key : Option String) (name : String) : Bool :=
  key.all (sameName name)

/-- To keep the values of some names is to keep the headers with these names. -/
theorem filter_pairs (h : Headers) (p : String → Bool) :
    h.pairs.filter (fun pair => p pair.1) =
      (h.entries.filter fun e => p e.name).flatMap fun e => e.values.map (e.name, ·) := by
  obtain ⟨entries, hdistinct⟩ := h
  simp only [pairs]
  clear hdistinct
  induction entries with
  | nil => rfl
  | cons e entries ih =>
    have hname : ∀ pair ∈ e.values.map (e.name, ·), p pair.1 = p e.name := by
      intro pair hpair
      obtain ⟨value, -, rfl⟩ := List.mem_map.1 hpair
      rfl
    rw [List.flatMap_cons, List.filter_append, ih, List.filter_cons]
    cases hp : p e.name with
    | true =>
      have hall := List.filter_eq_self.2 fun pair hpair => (hname pair hpair).trans hp
      rw [hall, if_pos rfl, List.flatMap_cons]
    | false =>
      have hnone := List.filter_eq_nil_iff.2 fun pair hpair =>
        Bool.eq_false_iff.1 ((hname pair hpair).trans hp)
      rw [hnone, if_neg Bool.false_ne_true, List.nil_append]

/-- The values of a key are those of the selected headers. -/
theorem valuesOf_eq (h : Headers) (key : Option String) :
    h.valuesOf key = (h.pairs.filter fun pair => selects key pair.1).map (·.2) := by
  rw [filter_pairs, List.map_flatMap]
  simp only [List.map_map, Function.comp_def, List.map_id']
  cases key with
  | none =>
    have hall : h.entries.filter (fun e => selects none e.name) = h.entries :=
      List.filter_eq_self.2 fun _ _ => rfl
    rw [hall, valuesOf, allValues]
  | some key =>
    simp only [selects, Option.all_some, h.distinct.filter_eq key, valuesOf, getAll?]
    cases h.entries.find? (fun e => sameName e.name key) with
    | none => rfl
    | some e => simp

end Headers

end Playback
