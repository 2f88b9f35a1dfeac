import Playback.Endpoint.Basic
import Playback.Proofs.Chapter.Bookkeeping
import Playback.Proofs.Fixture.Range
import Playback.Proofs.Json.ReadBack

/-!
# Printed states

A replay prints the state that it ends in. The text that it prints is read back here, so what is
told about it is what a reader of the output finds: the chapter and its use count, the response, the
use counts and variables under their names, and the sequences that did not run.
-/

namespace Playback

open Text

/-! ## What a reader finds -/

/-- The value at the end of a path of names that leads from object to object. -/
def Json.at? : List String → Json → Option Json
  | [], value => some value
  | name :: names, .object fields => (field? name fields).bind (at? names)
  | _ :: _, _ => none

/-- What a printed rejection names: the place of the sequence, the place of the line in it, and the
line. -/
def Json.rejectedLine? : Json → Option (Int × Int × String)
  | .object fields =>
    match field? "sequence" fields, field? "line_index" fields, field? "line" fields with
    | some (.integer place), some (.integer index), some (.text line) => some (place, index, line)
    | _, _, _ => none
  | _ => none

/-- What the rejections of a printed replay name, in order. -/
def Json.rejectedLines? : Json → Option (List (Int × Int × String))
  | .object fields =>
    match field? "rejected" fields with
    | some (.list items) => items.mapM rejectedLine?
    | _ => none
  | _ => none

/-- What a rejection names. -/
def Rejection.line (r : Rejection) : Int × Int × String :=
  (r.sequence, r.fault.index, r.fault.line)

theorem Rejection.rejectedLine?_json (r : Rejection) : r.json.rejectedLine? = some r.line := rfl

/-- A replay is printed with what its rejections name. -/
theorem Replay.rejectedLines?_json (r : Replay) :
    r.json.rejectedLines? = some (r.report.rejected.map Rejection.line) := by
  change (r.report.rejected.map Rejection.json).mapM Json.rejectedLine? = _
  induction r.report.rejected with
  | nil => rfl
  | cons rejection rejections ih =>
    rw [List.map_cons, List.mapM_cons, ih, Rejection.rejectedLine?_json]
    rfl

/-- A value is the state after a replay. -/
structure Json.IsStateAfter (r : Replay) (value : Json) : Prop where
  /-- The name of the chapter. -/
  chapter : value.at? ["chapter"] = some (.text r.chapter.name)
  /-- The use count of the chapter. -/
  uses : value.at? ["uses"] = some (.integer r.chapter.uses)
  /-- The status of the response. -/
  status : value.at? ["response", "status"] = some (.integer r.response.status)
  /-- The headers of the response, in order. -/
  headers : value.at? ["response", "headers"] =
    some (.object (r.response.headers.entries.map fun e => (e.name, .list (e.values.map .text))))
  /-- The body of the response. -/
  body : value.at? ["response", "body"] = some (.text r.response.body)
  /-- The use count under a name, if there is one. -/
  chapterUses : ∀ name,
    value.at? ["chapter_uses", name] = (r.store.usesOf? name).map .integer
  /-- The variable of the chapter with a name, if there is one. -/
  chapterVariables : ∀ name,
    value.at? ["scopes", "chapter", name] = (r.store.chapter.get? name).map .text
  /-- The variable of the session with a name, if there is one. -/
  testBounds : ∀ name,
    value.at? ["scopes", "test_bounds", name] = (r.store.testBounds.get? name).map .text
  /-- The places of the sequences that did not run, with the place and text of the faulty line of
  each, in order. -/
  rejected : value.rejectedLines? = some (r.report.rejected.map Rejection.line)

/-- In the object of a table, a name leads to its value. -/
theorem Table.at?_json {α : Type} (t : Table α) (value : α → Json) (name : String) :
    (t.json value).at? [name] = (t.get? name).map value := by
  have hbind : (t.json value).at? [name] =
      Json.field? name (t.entries.map fun e => (e.1, value e.2)) := Option.bind_fun_some _
  rw [hbind, Table.get?]
  have hordered := t.ordered
  generalize t.entries = entries at hordered ⊢
  induction entries with
  | nil => rfl
  | cons entry entries ih =>
    obtain ⟨key, a⟩ := entry
    obtain ⟨hkey, hentries⟩ := List.pairwise_cons.1 hordered
    rw [List.map_cons, Json.field?, ih hentries, List.lookup_cons]
    by_cases hname : key = name
    · subst hname
      have hlater : entries.lookup key = none := by
        refine List.lookup_eq_none_iff.2 fun other hother => ?_
        rw [bne_iff_ne]
        rintro rfl
        exact String.lt_irrefl _ (hkey other hother)
      rw [hlater, if_pos rfl, beq_self_eq_true]
      rfl
    · have hother : (name == key) = false := beq_eq_false_iff_ne.2 (Ne.symm hname)
      rw [if_neg hname, hother]
      cases entries.lookup name <;> rfl

/-- The object of a replay is the state after it. -/
theorem Replay.isStateAfter_json (r : Replay) : r.json.IsStateAfter r where
  chapter := rfl
  uses := rfl
  status := rfl
  headers := rfl
  body := rfl
  chapterUses name := r.store.chapterUses.at?_json .integer name
  chapterVariables name := r.store.chapter.at?_json .text name
  testBounds name := r.store.testBounds.at?_json .text name
  rejected := r.rejectedLines?_json

/-! ## What is read back -/

/-- The places in a fixture have 64 bits, as they have in any fixture that fits into memory. -/
structure Fixture.Indexable (f : Fixture) : Prop where
  /-- The places of the sequences. -/
  sequences : f.sequences.length ≤ Nat.pow 2 64
  /-- The places of the lines in each sequence. -/
  lines : ∀ lines ∈ f.sequences, lines.length ≤ Nat.pow 2 64

theorem Json.fits_count {n : Int} (h : isCount n = true) (depth : Nat) :
    Fits (depth + 1) (.integer n) := by
  have hmax : (maxCount : Int) + 1 = Nat.pow 2 63 := rfl
  have hpow : (maxCount : Int) < Nat.pow 2 64 := by decide
  obtain ⟨hlow, hhigh⟩ := isCount_iff.1 h
  exact .integer (hmax ▸ hlow) (Int.lt_of_le_of_lt hhigh hpow)

theorem Json.fits_place {n : Nat} (h : n < Nat.pow 2 64) (depth : Nat) :
    Fits (depth + 1) (.integer n) :=
  .integer (by omega) (Int.ofNat_lt.2 h)

theorem Headers.fits_json (h : Headers) (depth : Nat) : Json.Fits (depth + 3) h.json := by
  refine .object fun field hfield => ?_
  obtain ⟨e, -, rfl⟩ := List.mem_map.1 hfield
  refine .list fun item hitem => ?_
  obtain ⟨s, -, rfl⟩ := List.mem_map.1 hitem
  exact .text s

theorem Table.fits_json {α : Type} {t : Table α} {value : α → Json} {depth : Nat}
    (h : ∀ name a, t.get? name = some a → Json.Fits (depth + 1) (value a)) :
    Json.Fits (depth + 2) (t.json value) := by
  refine .object fun field hfield => ?_
  obtain ⟨⟨key, a⟩, ha, rfl⟩ := List.mem_map.1 hfield
  exact h key a (Table.mem_entries_iff.1 ha)

theorem Response.fits_json {r : Response} (h : r.status < Nat.pow 2 16) (depth : Nat) :
    Json.Fits (depth + 4) r.json := by
  have hsmall : r.status < Nat.pow 2 64 := Nat.lt_trans h (by decide)
  have hstatus : Json.Fits (depth + 3) (.integer r.status) := Json.fits_place hsmall _
  have hheaders := r.headers.fits_json depth
  exact .object (by simp [hstatus, hheaders])

/-- A sequence that a replay rejects is read back. -/
theorem Fixture.fits_rejection {f : Fixture} (hplaces : f.Indexable) {rejection : Rejection}
    (h : rejection ∈ f.replay.report.rejected) (depth : Nat) :
    Json.Fits (depth + 2) rejection.json := by
  obtain ⟨lines, hlines, hcompile⟩ := f.toChapter.mem_rejected_iff.1 h
  have hplace : rejection.sequence < Nat.pow 2 64 := by
    have hbound := (List.getElem?_eq_some_iff.1 hlines).1
    exact Nat.lt_of_lt_of_le hbound hplaces.sequences
  have hindex : rejection.fault.index < Nat.pow 2 64 := by
    have hline := (Sequence.compile_eq_error_iff.1 hcompile).line
    have hbound := (List.getElem?_eq_some_iff.1 hline).1
    exact Nat.lt_of_lt_of_le hbound (hplaces.lines lines (List.mem_of_getElem? hlines))
  have hplace := Json.fits_place hplace depth
  have hindex := Json.fits_place hindex depth
  exact .object (by simp [hplace, hindex])

/-- The state after the replay of a fixture is read back. -/
theorem Fixture.fits_replay {f : Fixture} (hrange : f.InRange) (hplaces : f.Indexable) :
    Json.Fits 128 f.replay.json := by
  have hafter := hrange.after
  have huses : Json.Fits 127 (.integer f.replay.chapter.uses) := Json.fits_count hafter.uses _
  have hresponse : Json.Fits 127 f.replay.response.json := Response.fits_json hafter.status 123
  have hcounts : Json.Fits 127 (f.replay.store.chapterUses.json .integer) :=
    Table.fits_json fun name n hn => Json.fits_count (hafter.chapterUses name n hn) 125
  have hscopes : Json.Fits 127 (.object [
      ("chapter", f.replay.store.chapter.json .text),
      ("test_bounds", f.replay.store.testBounds.json .text)]) := by
    have htable (t : Table String) : Json.Fits 126 (t.json .text) :=
      Table.fits_json fun _ s _ => .text s
    exact .object (by simp [htable])
  have hrejected : Json.Fits 127 (.list (f.replay.report.rejected.map (·.json))) := by
    refine .list fun item hitem => ?_
    obtain ⟨rejection, hrejection, rfl⟩ := List.mem_map.1 hitem
    exact fits_rejection hplaces hrejection 124
  exact .object (by simp [huses, hresponse, hcounts, hscopes, hrejected])

/-- A replay prints the state that it ends in, and nothing else. -/
theorem Endpoint.printsState {f : Fixture} (hrange : f.InRange) (hplaces : f.Indexable) :
    ∃ text value, (Endpoint.replay f).run.output = text ++ "\n" ∧ Json.read? text = some value ∧
      value.IsStateAfter f.replay :=
  ⟨f.replay.json.pretty, f.replay.json, rfl, Json.read?_pretty (Fixture.fits_replay hrange hplaces),
    f.replay.isStateAfter_json⟩

end Playback
