import Playback.Proofs.Pattern.Matches
import Playback.Proofs.Visit.HeaderRewrite

/-!
# What a finding is made of

Sources of all kinds are read through a few ways of collecting values, which note the captured
values and the groups apart. They belong together nevertheless: there are no groups without a
captured value, and where a pattern has matched, the groups and the first captured value are told by
one and the same match, the first one in the texts that the source looks at.
-/

namespace Playback

/-- The parts of a finding agree with each other. -/
structure Finding.Coherent (f : Finding) : Prop where
  /-- A source has matched exactly when a value is captured. -/
  matched_iff : f.matched = true ↔ f.captured ≠ []
  /-- It has a first value exactly when it has matched. -/
  isSome_first_iff : f.first?.isSome = true ↔ f.matched = true
  /-- The first value is the first captured one. -/
  first_eq : f.first? = f.captured[0]?
  /-- It has groups only if it has matched. -/
  matched_of_groups : f.groups ≠ [] → f.matched = true

/-- The groups and the first captured value of a finding are told by a match of a pattern. -/
structure Finding.Tells (f : Finding) (p : Pattern) (m : Pattern.Match) : Prop where
  /-- The groups are the text of the match and then what each of its groups took, where a group
  that took no part is empty. -/
  groups_eq : f.groups = m.whole :: m.groups.map (·.getD "")
  /-- There is one for each group of the pattern, and the whole match before them. -/
  length_groups : f.groups.length = p.groupCount + 1
  /-- The first captured value is what the first group took that took part, or else the text of the
  match. -/
  first_eq : f.captured[0]? = some ((m.groups.findSome? id).getD m.whole)

/-- The texts in which a source looks for its pattern, in order. -/
def Visit.texts (v : Visit) : Source → List String
  | .head side key _ => (v.headers side).valuesOf key
  | .body side _ => [v.body side]
  | .variable scope up (some name) _ => ((v.store.lookup scope name up).map (·.2)).toList
  | .variable scope _ none _ => v.store.values scope
  | .uses _ _ => []

/-- The first match of a pattern in several texts: the one in the first text that has one. -/
def Pattern.firstIn? (p : Pattern) (texts : List String) : Option Match :=
  texts.findSome? p.find?

/-- What a source yields is coherent. -/
structure Visit.FindsCoherently (v : Visit) (source : Source) : Prop where
  /-- The parts of what it yields agree with each other. -/
  coherent : (v.find source).Coherent
  /-- If it has a pattern, it has matched exactly when the pattern matches in one of its texts. -/
  matched_iff : ∀ p, source.pattern? = some p →
    ((v.find source).matched = true ↔ (p.firstIn? (v.texts source)).isSome = true)
  /-- The first match in its texts then tells the groups and the first captured value. -/
  tells : ∀ p m, source.pattern? = some p → p.firstIn? (v.texts source) = some m →
    (v.find source).Tells p m

/-! ## Values and groups -/

namespace Finding

variable {f : Finding}

/-- A finding whose groups come with a captured value is coherent. -/
theorem coherent_of_groups (h : f.groups ≠ [] → f.captured ≠ []) : f.Coherent := by
  have hmatched : f.matched = true ↔ f.captured ≠ [] := by
    rw [matched, Bool.not_eq_true', List.isEmpty_eq_false_iff]
  constructor
  case matched_iff => exact hmatched
  case isSome_first_iff => rw [hmatched, first?, List.isSome_head?]
  case first_eq => rw [first?, List.head?_eq_getElem?]
  case matched_of_groups => exact fun hgroups => hmatched.2 (h hgroups)

theorem coherent_miss : miss.Coherent :=
  coherent_of_groups fun h => absurd rfl h

theorem coherent_values (values : List String) : Coherent ⟨values, []⟩ :=
  coherent_of_groups fun h => absurd rfl h

variable {found : List Pattern.Match}

/-- What matches yield is coherent. -/
theorem coherent_ofMatches (found : List Pattern.Match) : (ofMatches found).Coherent := by
  refine coherent_of_groups fun h hcaptured => h ?_
  have hnone : found = [] := List.map_eq_nil_iff.1 hcaptured
  rw [hnone]
  rfl

theorem matched_ofMatches (found : List Pattern.Match) :
    (ofMatches found).matched = found.head?.isSome := by
  cases found with
  | nil => rfl
  | cons m found => rfl

/-- The first of several matches tells what they yield. -/
theorem tells_ofMatches {p : Pattern} {m : Pattern.Match} (h : found.head? = some m)
    (hlength : m.groups.length = p.groupCount) : (ofMatches found).Tells p m := by
  have hgroups : (ofMatches found).groups = m.values := by
    rw [ofMatches, h]
    rfl
  constructor
  case groups_eq => exact hgroups
  case length_groups =>
    rw [hgroups, Pattern.Match.values, List.length_cons, List.length_map, hlength]
  case first_eq =>
    have hfirst : (found.map (·.first))[0]? = some m.first := by
      rw [← List.head?_eq_getElem?, List.head?_map, h]
      rfl
    exact hfirst

theorem inValues_some (p : Pattern) (values : List String) :
    inValues (some p) values = .ofMatches (values.filterMap p.find?) := rfl

/-- What a list of values yields is coherent. -/
theorem coherent_inValues (pattern : Option Pattern) (values : List String) :
    (inValues pattern values).Coherent := by
  cases pattern with
  | none => exact coherent_values values
  | some p => exact coherent_ofMatches _

/-- What a text yields is coherent. -/
theorem coherent_inText (pattern : Option Pattern) (text : String) :
    (inText pattern text).Coherent := by
  cases pattern with
  | none =>
    rw [inText]
    split
    · exact coherent_miss
    · exact coherent_of_groups fun _ h => nomatch h
  | some p => exact coherent_ofMatches _

end Finding

/-! ## Sources -/

namespace Pattern

variable {p : Pattern} {m : Match}

/-- The first match in several texts has what each group of the pattern took. -/
theorem length_groups_of_firstIn? {texts : List String} (h : p.firstIn? texts = some m) :
    m.groups.length = p.groupCount := by
  obtain ⟨text, -, hfind⟩ := List.exists_of_findSome?_eq_some h
  exact length_groups_of_find? hfind

theorem firstIn?_singleton (p : Pattern) (text : String) :
    p.firstIn? [text] = (p.findAll text).head? := by
  rw [firstIn?, head?_findAll, List.findSome?_singleton]

end Pattern

namespace Visit

variable {v : Visit} {source : Source}

/-- A variable that is not found yields nothing. -/
theorem find_variable_of_none {scope : Scope} {up : Bool} {name : String}
    (h : v.store.lookup scope name up = none) (pattern : Option Pattern) :
    v.find (.variable scope up (some name) pattern) = .miss := by
  rw [find.eq_def]
  simp only [h]

/-- A variable that is found yields its value, or all matches in it. -/
theorem find_variable_of_some {scope : Scope} {up : Bool} {name : String}
    {entry : Scope × String} (h : v.store.lookup scope name up = some entry)
    (pattern : Option Pattern) :
    v.find (.variable scope up (some name) pattern) =
      match pattern with
      | some p => .ofMatches (p.findAll entry.2)
      | none => ⟨[entry.2], []⟩ := by
  rw [find.eq_def]
  simp only [h]
  cases pattern with
  | none => rfl
  | some p => rfl

/-- What a source yields is coherent, whatever its kind. -/
theorem coherent_find (v : Visit) (source : Source) : (v.find source).Coherent := by
  cases source with
  | head side key pattern =>
    rw [find_head]
    exact Finding.coherent_inValues pattern _
  | body side pattern => exact Finding.coherent_inText pattern _
  | «variable» scope up name pattern =>
    cases name with
    | none => exact Finding.coherent_inValues pattern _
    | some name =>
      cases hlookup : v.store.lookup scope name up with
      | none =>
        rw [find_variable_of_none hlookup]
        exact Finding.coherent_miss
      | some entry =>
        rw [find_variable_of_some hlookup]
        cases pattern with
        | none => exact Finding.coherent_values _
        | some p => exact Finding.coherent_ofMatches _
  | uses chapter condition =>
    rw [find]
    split
    · exact Finding.coherent_values _
    · exact Finding.coherent_miss

/-- A source with a pattern yields matches, of which the first is the first match in its texts. -/
theorem exists_find_eq_ofMatches {p : Pattern} (h : source.pattern? = some p) :
    ∃ found, v.find source = .ofMatches found ∧ found.head? = p.firstIn? (v.texts source) := by
  cases source with
  | head side key pattern =>
    obtain rfl : pattern = some p := h
    refine ⟨((v.headers side).valuesOf key).filterMap p.find?, ?_, List.head?_filterMap⟩
    rw [find_head, Finding.inValues_some]
  | body side pattern =>
    obtain rfl : pattern = some p := h
    exact ⟨p.findAll (v.body side), rfl, (p.firstIn?_singleton _).symm⟩
  | «variable» scope up name pattern =>
    obtain rfl : pattern = some p := h
    cases name with
    | none => exact ⟨(v.store.values scope).filterMap p.find?, rfl, List.head?_filterMap⟩
    | some name =>
      rw [texts]
      cases hlookup : v.store.lookup scope name up with
      | none => exact ⟨[], find_variable_of_none hlookup _, rfl⟩
      | some entry =>
        exact ⟨p.findAll entry.2, find_variable_of_some hlookup _, (p.firstIn?_singleton _).symm⟩
  | uses chapter condition => cases h

/-- What a source yields is coherent, and where its pattern has matched, one match tells the groups
and the first captured value. -/
theorem findsCoherently (v : Visit) (source : Source) : v.FindsCoherently source := by
  constructor
  case coherent => exact v.coherent_find source
  case matched_iff =>
    intro p hpattern
    obtain ⟨found, hfind, hhead⟩ := exists_find_eq_ofMatches (v := v) hpattern
    rw [hfind, Finding.matched_ofMatches, hhead]
  case tells =>
    intro p m hpattern hfirst
    obtain ⟨found, hfind, hhead⟩ := exists_find_eq_ofMatches (v := v) hpattern
    rw [hfind]
    exact Finding.tells_ofMatches (hhead.trans hfirst) (Pattern.length_groups_of_firstIn? hfirst)

end Visit

end Playback
