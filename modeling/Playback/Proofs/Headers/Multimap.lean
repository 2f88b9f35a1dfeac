import Mathlib.Data.Finset.Card
import Playback.Proofs.Headers

/-!
# Headers as a multimap

Values that are added one after the other are kept under one header for each name: the headers stand
in the order in which the names are first met, in the spelling that is met first, and each has all
values of its name in order. No change of headers gives a name to two of them, although each looks
no further than the first header with its name.
-/

namespace Playback

/-! ## Names -/

/-- The characters of a name, with small letters for capital ones. -/
def lowerName (name : String) : List Char :=
  name.toList.map Char.toLower

theorem sameName_iff {a b : String} : sameName a b = true ↔ lowerName a = lowerName b := by
  rw [sameName, beq_iff_eq, lowerName, lowerName]

theorem sameName_congr {a b : String} (h : sameName a b = true) (c : String) :
    sameName a c = sameName b c := by
  rw [Bool.eq_iff_iff, sameName_iff, sameName_iff, sameName_iff.1 h]

/-- A name behind others is kept if none of them is the same. -/
theorem eraseDupsBy_concat (names : List String) (name : String) :
    (names ++ [name]).eraseDupsBy sameName =
      names.eraseDupsBy sameName ++ if names.any (sameName · name) then [] else [name] := by
  induction hlength : names.length using Nat.strongRecOn generalizing names with
  | ind n ih =>
    cases names with
    | nil => rfl
    | cons first rest =>
      rw [List.cons_append, List.eraseDupsBy_cons, List.eraseDupsBy_cons, List.filter_append,
        List.any_cons]
      have hshorter : (rest.filter fun b => sameName b first = false).length < n := by
        rw [← hlength, List.length_cons]
        exact Nat.lt_succ_of_le (List.length_filter_le _ _)
      cases hfirst : sameName name first with
      | true =>
        rw [sameName_comm first, hfirst]
        simp [hfirst]
      | false =>
        have hkept (b : String) :
            (decide (sameName b first = false) && sameName b name) = sameName b name := by
          cases hb : sameName b name with
          | false => rw [Bool.and_false]
          | true => simp [sameName_congr hb, hfirst]
        have hlast : [name].filter (fun b => sameName b first = false) = [name] := by
          simp [hfirst]
        rw [hlast, ih _ hshorter _ rfl, List.any_filter, List.any_congr rfl hkept,
          sameName_comm first, hfirst, Bool.false_or, List.cons_append]

/-- Every name is the same as one that is kept. -/
theorem any_eraseDupsBy (names : List String) (name : String) :
    (names.eraseDupsBy sameName).any (sameName · name) = names.any (sameName · name) := by
  induction names using List.reverseRecOn with
  | nil => rfl
  | append_singleton names last ih =>
    rw [eraseDupsBy_concat, List.any_append, List.any_append, ih]
    split
    · rename_i hagain
      cases hlast : sameName last name with
      | false => simp [hlast]
      | true =>
        have hname : names.any (sameName · name) = true := by
          obtain ⟨other, hother, hsame⟩ := List.any_eq_true.1 hagain
          refine List.any_eq_true.2 ⟨other, hother, ?_⟩
          rw [sameName_congr hsame, hlast]
        rw [hname, Bool.true_or, Bool.true_or]
    · rfl

namespace Headers

/-! ## Collected values -/

/-- The values that a list of names and values has under a name in any spelling. -/
def valuesUnder (name : String) (pairs : List (String × String)) : List String :=
  (pairs.filter fun pair => sameName pair.1 name).map (·.2)

/-- The names of a list of names and values, each in its first spelling. -/
def firstNames (pairs : List (String × String)) : List String :=
  (pairs.map (·.1)).eraseDupsBy sameName

theorem valuesUnder_concat (name : String) (pairs : List (String × String))
    (pair : String × String) :
    valuesUnder name (pairs ++ [pair]) =
      valuesUnder name pairs ++ if sameName pair.1 name then [pair.2] else [] := by
  rw [valuesUnder, valuesUnder, List.filter_append, List.map_append, List.filter_cons,
    List.filter_nil]
  split <;> rfl

theorem valuesUnder_congr {name other : String} (h : sameName name other = true)
    (pairs : List (String × String)) : valuesUnder name pairs = valuesUnder other pairs := by
  have hpair (pair : String × String) : sameName pair.1 name = sameName pair.1 other := by
    rw [sameName_comm, sameName_congr h, sameName_comm]
  rw [valuesUnder, valuesUnder, List.filter_congr fun pair _ => hpair pair]

theorem valuesUnder_eq_nil_iff {name : String} {pairs : List (String × String)} :
    valuesUnder name pairs = [] ↔ pairs.any (fun pair => sameName pair.1 name) = false := by
  simp [valuesUnder]

theorem firstNames_concat (pairs : List (String × String)) (pair : String × String) :
    firstNames (pairs ++ [pair]) =
      firstNames pairs ++
        if pairs.any (fun other => sameName other.1 pair.1) then [] else [pair.1] := by
  rw [firstNames, List.map_append, List.map_singleton, eraseDupsBy_concat, List.any_map]
  rfl

theorem any_firstNames (pairs : List (String × String)) (name : String) :
    (firstNames pairs).any (sameName · name) = pairs.any fun pair => sameName pair.1 name := by
  rw [firstNames, any_eraseDupsBy, List.any_map]
  rfl

/-- The headers of a list of names and values: one for each name, with its first spelling and all
its values. -/
def collected (pairs : List (String × String)) : List Header :=
  (firstNames pairs).map fun name => ⟨name, valuesUnder name pairs⟩

/-- A value goes to the header with its name, or else into a new header behind the others. -/
theorem entries_append (h : Headers) (name value : String) :
    (h.append name value).entries =
      if h.entries.any fun e => sameName e.name name then
        h.entries.map fun e => if sameName e.name name then ⟨e.name, e.values ++ [value]⟩ else e
      else h.entries ++ [⟨name, [value]⟩] := by
  rw [append]
  split <;> rfl

/-- Adding one more value to collected values collects it with them. -/
theorem collected_append {h : Headers} {pairs : List (String × String)}
    (hcollected : h.entries = collected pairs) (name value : String) :
    (h.append name value).entries = collected (pairs ++ [(name, value)]) := by
  have hany : (h.entries.any fun e => sameName e.name name) =
      pairs.any fun pair => sameName pair.1 name := by
    rw [hcollected, collected, List.any_map, ← any_firstNames]
    rfl
  rw [entries_append, hany, hcollected, collected, collected, firstNames_concat]
  cases hknown : pairs.any fun pair => sameName pair.1 name with
  | true =>
    rw [if_pos rfl, if_pos rfl, List.append_nil, List.map_map]
    refine List.map_congr_left fun other _ => ?_
    rw [valuesUnder_concat, sameName_comm name, Function.comp_apply]
    cases hother : sameName other name with
    | true => rfl
    | false => simp
  | false =>
    rw [if_neg Bool.false_ne_true, if_neg Bool.false_ne_true, List.map_append, List.map_singleton,
      valuesUnder_concat, valuesUnder_eq_nil_iff.2 hknown, sameName_iff.2 rfl, if_pos rfl,
      List.nil_append]
    refine congrArg (· ++ _) (List.map_congr_left fun other hother => ?_)
    have hnone : sameName name other = false := by
      rw [← any_firstNames, List.any_eq_false] at hknown
      rw [sameName_comm]
      exact Bool.eq_false_iff.2 (hknown other hother)
    rw [valuesUnder_concat, hnone, if_neg Bool.false_ne_true, List.append_nil]

theorem ofPairs_concat (pairs : List (String × String)) (pair : String × String) :
    ofPairs (pairs ++ [pair]) = (ofPairs pairs).append pair.1 pair.2 := by
  rw [ofPairs, ofPairs, List.foldl_append]
  rfl

/-- Adding values one after the other collects them. -/
theorem entries_ofPairs (pairs : List (String × String)) :
    (ofPairs pairs).entries = collected pairs := by
  induction pairs using List.reverseRecOn with
  | nil => rfl
  | append_singleton pairs pair ih => rw [ofPairs_concat, collected_append ih]

/-! ## Reading collected values -/

/-- A header is found by any spelling of its name. -/
theorem getAll?_ofPairs (pairs : List (String × String)) (name : String) :
    (ofPairs pairs).getAll? name =
      if pairs.any fun pair => sameName pair.1 name then some (valuesUnder name pairs)
      else none := by
  rw [getAll?, entries_ofPairs, collected, List.find?_map, Option.map_map, ← any_firstNames]
  cases hfound : (firstNames pairs).find? fun other => sameName other name with
  | none =>
    have hnone : (firstNames pairs).any (sameName · name) = false :=
      List.any_eq_false.2 (List.find?_eq_none.1 hfound)
    rw [hnone, if_neg Bool.false_ne_true]
    exact congrArg _ hfound
  | some other =>
    have hsame : sameName other name = true := by
      simpa using List.find?_some hfound
    have hmem : other ∈ firstNames pairs := List.mem_of_find?_eq_some hfound
    rw [if_pos (List.any_eq_true.2 ⟨other, hmem, hsame⟩), ← valuesUnder_congr hsame]
    exact congrArg _ hfound

/-- The small letters of the names of headers are different ones. -/
theorem nodup_lowerNames (h : Headers) : (h.entries.map fun e => lowerName e.name).Nodup := by
  refine List.pairwise_map.2 (h.distinct.imp fun {a b} hab heq => ?_)
  rw [sameName_iff.2 heq] at hab
  cases hab

/-- There are as many headers as names that are not the same. -/
theorem size_ofPairs (pairs : List (String × String)) :
    (ofPairs pairs).size = (pairs.map fun pair => lowerName pair.1).toFinset.card := by
  have hlength : (ofPairs pairs).size =
      ((ofPairs pairs).entries.map fun e => lowerName e.name).length := by
    rw [List.length_map, size]
  rw [hlength, ← List.toFinset_card_of_nodup (nodup_lowerNames _), entries_ofPairs, collected,
    List.map_map]
  congr 1
  ext letters
  simp only [List.mem_toFinset, List.mem_map, Function.comp_apply]
  constructor
  · rintro ⟨name, hname, rfl⟩
    have hany : (firstNames pairs).any (sameName · name) = true :=
      List.any_eq_true.2 ⟨name, hname, sameName_iff.2 rfl⟩
    rw [any_firstNames] at hany
    obtain ⟨pair, hpair, hsame⟩ := List.any_eq_true.1 hany
    exact ⟨pair, hpair, sameName_iff.1 hsame⟩
  · rintro ⟨pair, hpair, rfl⟩
    have hany : (pairs.any fun other => sameName other.1 pair.1) = true :=
      List.any_eq_true.2 ⟨pair, hpair, sameName_iff.2 rfl⟩
    rw [← any_firstNames] at hany
    obtain ⟨name, hname, hsame⟩ := List.any_eq_true.1 hany
    exact ⟨name, hname, sameName_iff.1 hsame⟩

/-! ## Adding all values again -/

/-- Each header of collected values has a value. -/
theorem values_ne_nil_of_mem_ofPairs {pairs : List (String × String)} {e : Header}
    (he : e ∈ (ofPairs pairs).entries) : e.values ≠ [] := by
  rw [entries_ofPairs, collected] at he
  obtain ⟨name, hname, rfl⟩ := List.mem_map.1 he
  have hany : (firstNames pairs).any (sameName · name) = true :=
    List.any_eq_true.2 ⟨name, hname, sameName_iff.2 rfl⟩
  intro hnil
  rw [valuesUnder_eq_nil_iff, ← any_firstNames, hany] at hnil
  cases hnil

/-- Of the names of all values one at a time the first spellings are the names of the headers. -/
theorem eraseDupsBy_names {entries : List Header} (hdistinct : NamesDistinct entries)
    (hvalues : ∀ e ∈ entries, e.values ≠ []) :
    (entries.flatMap fun e => e.values.map fun _ => e.name).eraseDupsBy sameName =
      entries.map (·.name) := by
  induction entries with
  | nil => rfl
  | cons e entries ih =>
    obtain ⟨hfirst, hrest⟩ := List.pairwise_cons.1 hdistinct
    obtain ⟨hvalue, hothers⟩ := List.forall_mem_cons.1 hvalues
    obtain ⟨value, values, heq⟩ := List.exists_cons_of_ne_nil hvalue
    -- the name of the first header is dropped where it is repeated, and no other name is
    have hagain : (values.map fun _ => e.name).filter (fun b => sameName b e.name = false) =
        [] := by
      simp [sameName_iff.2 rfl]
    have hlater : (entries.flatMap fun e => e.values.map fun _ => e.name).filter
        (fun b => sameName b e.name = false) =
          entries.flatMap fun e => e.values.map fun _ => e.name := by
      refine List.filter_eq_self.2 fun b hb => ?_
      obtain ⟨other, hother, hmem⟩ := List.mem_flatMap.1 hb
      obtain ⟨text, -, rfl⟩ := List.mem_map.1 hmem
      rw [sameName_comm, hfirst other hother]
      rfl
    rw [List.flatMap_cons, heq, List.map_cons, List.cons_append, List.eraseDupsBy_cons,
      List.filter_append, hagain, hlater, List.nil_append, ih hrest hothers, List.map_cons]

/-- The first spellings of the names in headers with values are those of the headers. -/
theorem firstNames_pairs {h : Headers} (hvalues : ∀ e ∈ h.entries, e.values ≠ []) :
    firstNames h.pairs = h.entries.map (·.name) := by
  have hnames : h.pairs.map (·.1) =
      h.entries.flatMap fun e => e.values.map fun _ => e.name := by
    simp only [pairs, List.map_flatMap, List.map_map, Function.comp_def]
  rw [firstNames, hnames, eraseDupsBy_names h.distinct hvalues]

/-- The values of a header are those under its name. -/
theorem valuesUnder_pairs {h : Headers} {e : Header} (he : e ∈ h.entries) :
    valuesUnder e.name h.pairs = e.values := by
  have hfilter : e ∈ h.entries.filter fun other => sameName other.name e.name :=
    List.mem_filter.2 ⟨he, sameName_iff.2 rfl⟩
  rw [h.distinct.filter_eq, Option.mem_toList] at hfilter
  have hvalues : h.valuesOf (some e.name) = e.values := by
    rw [valuesOf, getAll?, hfilter, Option.map_some, Option.getD_some]
  rw [← hvalues, valuesOf_eq]
  rfl

/-- Adding all values of headers again, each under the name of its header, gives the same headers,
if none of them is without values. -/
theorem ofPairs_pairs {h : Headers} (hvalues : ∀ e ∈ h.entries, e.values ≠ []) :
    ofPairs h.pairs = h := by
  apply Headers.ext
  rw [entries_ofPairs, collected, firstNames_pairs hvalues, List.map_map]
  refine (List.map_congr_left fun e he => ?_).trans (List.map_id h.entries)
  rw [Function.comp_apply, valuesUnder_pairs he]
  rfl

/-! ## Changes -/

/-- What may be done to headers. -/
inductive Operation where
  /-- A value is added under a name. -/
  | append (name value : String)
  /-- The values of the header with a name become others, if there is such a header. -/
  | change (name : String) (f : List String → List String)
  /-- The values of every header become others, by the place of the header. -/
  | changeEach (f : Nat → List String → List String)

/-- Change the values of the first header with a name, if there is one. -/
def changeFirst (name : String) (f : List String → List String) : List Header → List Header
  | [] => []
  | e :: entries =>
    if sameName e.name name then ⟨e.name, f e.values⟩ :: entries
    else e :: changeFirst name f entries

/-- The headers after an operation, which looks no further than the first header with its name. -/
def Operation.perform (entries : List Header) : Operation → List Header
  | .append name value =>
    if entries.any fun e => sameName e.name name then changeFirst name (· ++ [value]) entries
    else entries ++ [⟨name, [value]⟩]
  | .change name f => changeFirst name f entries
  | .changeEach f => entries.mapIdx fun i e => ⟨e.name, f i e.values⟩

/-- A change of the values of a header keeps the names of all of them. -/
theorem names_changeFirst (name : String) (f : List String → List String)
    (entries : List Header) :
    (changeFirst name f entries).map (·.name) = entries.map (·.name) := by
  induction entries with
  | nil => rfl
  | cons e entries ih =>
    rw [changeFirst]
    split
    · rfl
    · rw [List.map_cons, List.map_cons, ih]

/-- Headers with the names of headers with distinct names have distinct names. -/
theorem namesDistinct_of_names {entries others : List Header} (h : NamesDistinct entries)
    (hnames : others.map (·.name) = entries.map (·.name)) : NamesDistinct others := by
  have hpairwise : (others.map (·.name)).Pairwise fun a b => sameName a b = false := by
    rw [hnames]
    exact List.pairwise_map.2 h
  exact List.pairwise_map.1 hpairwise

/-- No operation gives two headers the same name. -/
theorem namesDistinct_perform {entries : List Header} (h : NamesDistinct entries)
    (operation : Operation) : NamesDistinct (operation.perform entries) := by
  cases operation with
  | append name value =>
    rw [Operation.perform]
    split
    · exact namesDistinct_of_names h (names_changeFirst name _ entries)
    · rename_i hnew
      refine List.pairwise_append.2 ⟨h, List.pairwise_singleton _ _, fun e he new hmem => ?_⟩
      rw [List.mem_singleton.1 hmem]
      exact Bool.eq_false_iff.2 fun hsame => hnew (List.any_eq_true.2 ⟨e, he, hsame⟩)
  | change name f => exact namesDistinct_of_names h (names_changeFirst name f entries)
  | changeEach f =>
    refine namesDistinct_of_names h (List.ext_getElem? fun i => ?_)
    simp [Operation.perform, Function.comp_def]

/-- No operations one after the other give two headers the same name. -/
theorem namesDistinct_performAll {entries : List Header} (h : NamesDistinct entries)
    (operations : List Operation) : NamesDistinct (operations.foldl Operation.perform entries) := by
  induction operations generalizing entries with
  | nil => exact h
  | cons operation operations ih => exact ih (namesDistinct_perform h operation)

/-- Where names are distinct, the first header with a name is the only one. -/
theorem changeFirst_eq {entries : List Header} (h : NamesDistinct entries) (name : String)
    (f : List String → List String) :
    changeFirst name f entries =
      entries.map fun e => if sameName e.name name then ⟨e.name, f e.values⟩ else e := by
  induction entries with
  | nil => rfl
  | cons e entries ih =>
    obtain ⟨hfirst, hrest⟩ := List.pairwise_cons.1 h
    rw [changeFirst, List.map_cons]
    split
    · rename_i hsame
      have hothers (other : Header) (hother : other ∈ entries) :
          (if sameName other.name name then ⟨other.name, f other.values⟩ else other) = other := by
        refine if_neg fun hagain => Bool.false_ne_true ?_
        rw [← hfirst other hother, sameName_congr hsame, sameName_comm, hagain]
      rw [List.map_congr_left hothers, List.map_id']
    · rw [ih hrest]

/-- The headers after adding a value, or changing those of one header or of all, are those after the
operation. -/
theorem perform_entries (h : Headers) (name value : String) (f : List String → List String) :
    (Operation.append name value).perform h.entries = (h.append name value).entries ∧
      (Operation.change name f).perform h.entries = (h.update name f).entries ∧
      (Operation.changeEach fun _ => f).perform h.entries = (h.mapValues f).entries := by
  refine ⟨?_, changeFirst_eq h.distinct name f, ?_⟩
  · rw [Operation.perform, changeFirst_eq h.distinct, entries_append]
  · refine List.ext_getElem? fun i => ?_
    simp [Operation.perform, mapValues]

/-! ## The multimap -/

/-- Headers are what the values of a list of names and values are collected to. -/
structure Collects (h : Headers) (pairs : List (String × String)) : Prop where
  /-- There is one header for each name in the order in which the names are first met, with the
  spelling there and with all values under the name in order. -/
  entries : h.entries = ((pairs.map (·.1)).eraseDupsBy sameName).map fun name =>
    ⟨name, (pairs.filter fun pair => sameName pair.1 name).map (·.2)⟩
  /-- Any spelling of a name finds all values under the name, if there are some. -/
  found : ∀ name, h.getAll? name =
    if pairs.any fun pair => sameName pair.1 name then
      some ((pairs.filter fun pair => sameName pair.1 name).map (·.2))
    else none
  /-- There are as many headers as names that differ in more than small and capital letters. -/
  size : h.size = (pairs.map fun pair => lowerName pair.1).toFinset.card
  /-- All values added again, each under the name of its header, give the same headers. -/
  again : ofPairs h.pairs = h

/-- Adding values one after the other collects them, and nothing that is done to headers gives two
of them the same name. -/
theorem collects_ofPairs :
    (∀ pairs, (ofPairs pairs).Collects pairs) ∧
      (∀ operations : List Operation, NamesDistinct (operations.foldl Operation.perform [])) ∧
      ∀ (h : Headers) (name value : String) (f : List String → List String),
        (Operation.append name value).perform h.entries = (h.append name value).entries ∧
          (Operation.change name f).perform h.entries = (h.update name f).entries ∧
          (Operation.changeEach fun _ => f).perform h.entries = (h.mapValues f).entries := by
  refine ⟨fun pairs => ?_, namesDistinct_performAll List.Pairwise.nil, perform_entries⟩
  exact ⟨entries_ofPairs pairs, getAll?_ofPairs pairs, size_ofPairs pairs,
    ofPairs_pairs fun _ => values_ne_nil_of_mem_ofPairs⟩

example :
    (ofPairs [("Set-Cookie", "a=1"), ("X-Id", "7"), ("set-cookie", "b=2")]).entries =
      [⟨"Set-Cookie", ["a=1", "b=2"]⟩, ⟨"X-Id", ["7"]⟩] := by
  decide +kernel

end Headers

end Playback
