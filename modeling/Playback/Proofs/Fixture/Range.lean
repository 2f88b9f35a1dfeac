import Playback.Proofs.Chapter.ResponseShape
import Playback.Proofs.Fallible
import Playback.Proofs.Fixture.Counts

/-!
# Ranges of the numbers of a fixture

A status has 16 bits and a use count 64. What is decoded is in these ranges, and so is the state
that a replay ends in.
-/

namespace Playback

/-- The numbers of a fixture are in their ranges. -/
structure Fixture.InRange (f : Fixture) : Prop where
  /-- The status of the response has 16 bits. -/
  status : f.response.status < Nat.pow 2 16
  /-- The use count is a count. -/
  uses : Text.isCount f.uses = true
  /-- So are the use counts of chapters. -/
  chapterUses : ∀ name n, f.chapterUses.get? name = some n → Text.isCount n = true

/-! ## Decoding -/

/-- What holds of every result of a reading holds of all results of readings in order. -/
theorem forall_of_mapM_eq_ok {ε α β : Type} {read : α → Except ε β} {P : β → Prop}
    (hread : ∀ a b, read a = .ok b → P b) {as : List α} {bs : List β}
    (h : as.mapM read = .ok bs) : ∀ b ∈ bs, P b := by
  induction as generalizing bs with
  | nil =>
    cases h
    exact List.forall_mem_nil P
  | cons a as ih =>
    rw [List.mapM_cons, bind_eq_ok_iff] at h
    obtain ⟨b, hb, hrest⟩ := h
    obtain ⟨others, hothers, heq⟩ := bind_eq_ok_iff.1 hrest
    cases heq
    exact List.forall_mem_cons.2 ⟨hread a b hb, ih hothers⟩

/-- Entries that are put into a table in order are all that comes to its entries. -/
theorem Table.mem_of_mem_foldl_put {α : Type} {pairs : List (String × α)} {t : Table α}
    {e : String × α}
    (h : e ∈ (pairs.foldl (fun t (key, value) => t.put key value) t).entries) :
    e ∈ t.entries ∨ e ∈ pairs := by
  induction pairs generalizing t with
  | nil => exact .inl h
  | cons pair pairs ih =>
    rcases ih h with hput | hmem
    · rcases mem_putEntry hput with rfl | hold
      · exact .inr List.mem_cons_self
      · exact .inl hold
    · exact .inr (List.mem_cons_of_mem pair hmem)

/-- The entries of a table are among those that it is made of. -/
theorem Table.mem_of_mem_ofList {α : Type} {pairs : List (String × α)} {e : String × α}
    (h : e ∈ (Table.ofList pairs).entries) : e ∈ pairs := by
  rcases mem_of_mem_foldl_put h with hnone | hmem
  · cases hnone
  · exact hmem

namespace Decode

/-- What holds of a default and of every value that is read holds of a field. -/
theorem field_induction {α : Type} {value : Yaml.Node → Decoded α} {default : α} {name : String}
    {fields : List (String × Yaml.Node)} {P : α → Prop} (hdefault : P default)
    (hvalue : ∀ node a, value node = .ok a → P a) {a : α}
    (h : field value default name fields = .ok a) : P a := by
  rw [field] at h
  split at h
  · exact hvalue _ a h
  · cases h
    exact hdefault

/-- A count that is read is a count. -/
theorem isCount_of_count {node : Yaml.Node} {n : Int} (h : count node = .ok n) :
    Text.isCount n = true := by
  cases node with
  | list nodes => cases h
  | map fields => cases h
  | scalar style tag s =>
    rw [count] at h
    split at h
    · next m hm =>
      cases h
      exact (Option.filter_eq_some_iff.1 hm).2
    · cases h

/-- A status that is read has 16 bits. -/
theorem lt_of_status {node : Yaml.Node} {n : Nat} (h : status node = .ok n) : n < Nat.pow 2 16 := by
  cases node with
  | list nodes => cases h
  | map fields => cases h
  | scalar style tag s =>
    simp only [status] at h
    split at h
    · next m hm =>
      cases h
      exact of_decide_eq_true (Option.filter_eq_some_iff.1 hm).2
    · cases h

/-- A response that is read has a status of 16 bits. -/
theorem status_lt_of_response {node : Yaml.Node} {r : Response} (h : response node = .ok r) :
    r.status < Nat.pow 2 16 := by
  simp only [response, bind_eq_ok_iff] at h
  obtain ⟨parts, -, code, hcode, head, -, body, -, heq⟩ := h
  cases heq
  exact field_induction (P := fun n => n < Nat.pow 2 16) (by decide) (fun _ _ => lt_of_status) hcode

/-- What holds of every value that is read holds of the values of a table. -/
theorem forall_of_table {α : Type} {value : Yaml.Node → Decoded α} {P : α → Prop}
    (hvalue : ∀ node a, value node = .ok a → P a) {node : Yaml.Node} {t : Table α}
    (h : table value node = .ok t) {name : String} {a : α} (ha : t.get? name = some a) : P a := by
  simp only [table, bind_eq_ok_iff] at h
  obtain ⟨fields, -, pairs, hpairs, heq⟩ := h
  cases heq
  have hmem := Table.mem_of_mem_ofList (Table.mem_entries_iff.2 ha)
  refine forall_of_mapM_eq_ok (P := fun pair => P pair.2) ?_ hpairs _ hmem
  rintro ⟨key, node⟩ pair hpair
  obtain ⟨b, hb, rfl⟩ := map_eq_ok_iff.1 hpair
  exact hvalue node b hb

/-- The numbers of a fixture that is decoded are in their ranges. -/
theorem inRange_of_fixture {node : Yaml.Node} {f : Fixture} (h : fixture node = .ok f) :
    f.InRange := by
  simp only [fixture, bind_eq_ok_iff] at h
  obtain ⟨parts, -, chapter, -, uses, huses, request, -, response, hresponse, vars, -, bounds, -,
    counts, hcounts, sequences, -, heq⟩ := h
  cases heq
  constructor
  · exact field_induction (P := fun r : Response => r.status < Nat.pow 2 16) (by decide)
      (fun _ _ => status_lt_of_response) hresponse
  · exact field_induction (P := fun n => Text.isCount n = true) rfl
      (fun _ _ => isCount_of_count) huses
  · refine field_induction
      (P := fun t : Table Int => ∀ name n, t.get? name = some n → Text.isCount n = true) ?_
      (fun _ _ ht name n => forall_of_table (fun _ _ => isCount_of_count) ht) hcounts
    intro name n hn
    cases hn

end Decode

namespace Fixture

/-- The numbers of a fixture that is read are in their ranges. -/
theorem inRange_of_read {s : String} {f : Fixture} (h : Fixture.read s = .ok f) : f.InRange := by
  unfold Fixture.read at h
  cases hdocument : Yaml.read s with
  | error fault =>
    rw [hdocument] at h
    cases h
  | ok node =>
    rw [hdocument] at h
    cases hresolve : node.resolve with
    | error fault =>
      simp only [hresolve] at h
      cases h
    | ok node =>
      simp only [hresolve] at h
      exact Decode.inRange_of_fixture h

/-! ## Replays -/

/-- The numbers of the state that a replay ends in are in their ranges. -/
theorem InRange.after {f : Fixture} (h : f.InRange) : f.after.InRange := by
  have hown : Text.isCount f.replay.chapter.uses = true := isCount_uses_replay h.uses
  constructor
  · have hshape : f.replay.response.shape = f.response.shape :=
      (f.toChapter.begin f.request f.response f.store).shape_runAll f.toChapter.compiled
    have hstatus : f.replay.response.status = f.response.status := congrArg (·.status) hshape
    exact hstatus ▸ h.status
  · exact hown
  · intro name n hn
    by_cases hname : name = f.chapterName
    · have hself : f.replay.store.usesOf? f.chapterName = some f.replay.chapter.uses :=
        Chapter.usesOf?_replay_self f.request f.response f.store f.toChapter
      have hsame : some n = some f.replay.chapter.uses := by
        rw [← hself, ← hname]
        exact hn.symm
      exact Option.some.inj hsame ▸ hown
    · have hlast := f.usesOf?_replay_eq hname
      exact isCount_of_countAfter (h.chapterUses name) (hlast.trans hn)

end Fixture

end Playback
