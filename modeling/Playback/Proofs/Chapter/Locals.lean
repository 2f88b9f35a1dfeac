import Mathlib.Data.List.Basic
import Playback.Fixture.Basic
import Playback.Proofs.Chapter.Compiling
import Playback.Proofs.Chapter.Run

/-!
# Local variables

The variables of the local scope end with their sequence. Commands at the end of a sequence that do
not act, or extract into local variables only, change nothing that is left when the sequence has
ended: the replay of a chapter is the same with and without them, but for their own outcomes.

The proof runs the chapter with and without these commands side by side. What both runs share is the
visit behind each sequence, so that the later sequences cannot tell them apart, whatever they read.
-/

namespace Playback

/-! ## Commands that stay local -/

/-- Whether a command does not act, or extracts into local variables. -/
def Command.staysLocal (c : Command) : Bool :=
  match c.action with
  | none => true
  | some (.extract target) => target.scope == .local
  | some (.replace _) => false

/-- A replacement does not stay local. -/
theorem Command.staysLocal_eq_false {c : Command} (h : c.isReplacement = true) :
    c.staysLocal = false := by
  obtain ⟨template, haction⟩ := isReplacement_iff.1 h
  rw [staysLocal, haction]

/-- An extraction that stays local has a local target. -/
theorem Command.scope_of_staysLocal {c : Command} {target : Target} (h : c.staysLocal = true)
    (haction : c.action = some (.extract target)) : target.scope = .local := by
  rw [staysLocal, haction] at h
  exact beq_iff_eq.1 h

/-- Setting local variables is undone by dropping them. -/
theorem Store.clearLocal_setAll (s : Store) (entries : List (String × String)) :
    (s.setAll .local entries).clearLocal = s.clearLocal := by
  induction entries generalizing s with
  | nil => rfl
  | cons entry entries ih => exact ih (s.set .local entry.1 entry.2)

namespace Visit

/-- A command that stays local leaves nothing behind when its sequence ends. -/
theorem Effect.endSequence_eq {v w : Visit} {c : Command} (h : Effect v c w)
    (hlocal : c.staysLocal = true) : w.endSequence = v.endSequence := by
  have hreplacement (hc : c.isReplacement = true) : False := by
    rw [Command.staysLocal_eq_false hc] at hlocal
    cases hlocal
  cases h with
  | nothing => rfl
  | extract target passed haction =>
    rw [Command.scope_of_staysLocal hlocal haction]
    simp only [endSequence, Store.clearLocal_setAll]
  | setVariable scope up name pattern value haction hsource => exact (hreplacement haction).elim
  | setUses chapter condition uses haction hsource hallowed => exact (hreplacement haction).elim
  | rewriteBody pattern render haction hsource => exact (hreplacement haction).elim
  | rewriteHeaders key pattern render haction hsource => exact (hreplacement haction).elim

/-- Commands that stay local leave nothing behind when their sequence ends. -/
theorem endSequence_executeAll (v : Visit) {commands : List Command}
    (h : ∀ c ∈ commands, c.staysLocal = true) :
    (v.executeAll commands).1.endSequence = v.endSequence := by
  refine executeAll_induction (P := fun w => w.endSequence = v.endSequence) ?_ rfl
  intro c hc w hw
  exact ((w.effect_execute c).endSequence_eq (h c hc)).trans hw

/-- Every command has an outcome. -/
theorem length_executeAll (v : Visit) (commands : List Command) :
    (v.executeAll commands).2.length = commands.length := by
  induction commands generalizing v with
  | nil => rfl
  | cons c commands ih => rw [executeAll_cons, List.length_cons, ih, List.length_cons]

/-- Commands that stay local change nothing at the end of a sequence but its outcomes, of which they
add their own. -/
theorem run_append_of_staysLocal (v : Visit) (commands : Sequence) {more : List Command}
    (h : ∀ c ∈ more, c.staysLocal = true) :
    (v.run (commands ++ more)).1 = (v.run commands).1 ∧
      (v.run (commands ++ more)).2.take ((v.run (commands ++ more)).2.length - more.length) =
        (v.run commands).2 := by
  rw [run_eq, run_eq, executeAll_append]
  refine ⟨endSequence_executeAll _ h, ?_⟩
  rw [List.length_append, length_executeAll _ more, Nat.add_sub_cancel]
  exact List.take_left

end Visit

/-! ## Lines that stay local -/

/-- Whether all of the lines compile, to commands that stay local. -/
def Sequence.staysLocal (lines : List String) : Bool :=
  lines.all fun line => (Command.compile line).toOption.any Command.staysLocal

/-- Lines that stay local are those of a sequence of commands that do. -/
theorem Sequence.exists_commands_of_staysLocal {lines : List String}
    (h : Sequence.staysLocal lines = true) :
    ∃ commands : Sequence, lines.map Command.compile = commands.map .ok ∧
      ∀ c ∈ commands, c.staysLocal = true := by
  refine exists_commands fun line hline => ?_
  have hlocal := List.all_eq_true.1 h line hline
  cases hcompile : Command.compile line with
  | error cause =>
    rw [hcompile] at hlocal
    cases hlocal
  | ok c =>
    rw [hcompile] at hlocal
    exact ⟨c, rfl, hlocal⟩

/-! ## Sequences with more commands -/

/-- The commands of a sequence, with others behind them if it is at a place. -/
def extendAt (place : Nat) (more : List Command) (entry : Nat × Sequence) : Nat × Sequence :=
  (entry.1, if entry.1 = place then entry.2 ++ more else entry.2)

/-- The outcomes of a sequence, without the last ones if it is at a place. -/
def dropLastAt (place count : Nat) (entry : Nat × List Outcome) : Nat × List Outcome :=
  (entry.1, if entry.1 = place then entry.2.take (entry.2.length - count) else entry.2)

/-- With commands that stay local behind a sequence, sequences run to the same visit and with the
same outcomes, but for those of these commands. -/
theorem Visit.runAll_extendAt (v : Visit) (place : Nat) {more : List Command}
    (h : ∀ c ∈ more, c.staysLocal = true) (sequences : List (Nat × Sequence)) :
    (v.runAll (sequences.map (extendAt place more))).1 = (v.runAll sequences).1 ∧
      (v.runAll (sequences.map (extendAt place more))).2.map (dropLastAt place more.length) =
        (v.runAll sequences).2 := by
  -- over all visits: both runs go on from the same one, since it has no local variables left
  induction sequences generalizing v with
  | nil => exact ⟨rfl, rfl⟩
  | cons entry sequences ih =>
    obtain ⟨other, commands⟩ := entry
    rw [List.map_cons, extendAt]
    dsimp only
    split
    · rename_i hplace
      obtain ⟨hvisit, houtcomes⟩ := v.run_append_of_staysLocal commands h
      obtain ⟨hrest, hexecuted⟩ := ih (v.run commands).1
      rw [runAll_cons, runAll_cons, hvisit]
      refine ⟨hrest, ?_⟩
      rw [List.map_cons, hexecuted, dropLastAt, if_pos hplace, houtcomes]
    · rename_i hplace
      obtain ⟨hrest, hexecuted⟩ := ih (v.run commands).1
      rw [runAll_cons, runAll_cons]
      refine ⟨hrest, ?_⟩
      rw [List.map_cons, hexecuted, dropLastAt, if_neg hplace]

/-! ## Chapters with more lines -/

namespace Chapter

/-- The chapter with lines behind those of the sequence at a place. -/
def appendLines (c : Chapter) (place : Nat) (extra : List String) : Chapter :=
  { c with sequences := c.sequences.modify place (· ++ extra) }

/-- The lines of the sequences with their places, with further lines at one of them. -/
theorem zipIdx_appendLines (c : Chapter) (place : Nat) (extra : List String) :
    (c.appendLines place extra).sequences.zipIdx =
      c.sequences.zipIdx.map fun entry =>
        (if entry.2 = place then entry.1 ++ extra else entry.1, entry.2) := by
  refine List.ext_getElem? fun i => ?_
  rw [appendLines, List.getElem?_zipIdx, List.getElem?_modify, List.getElem?_map,
    List.getElem?_zipIdx]
  cases c.sequences[i]? with
  | none => rfl
  | some lines => simp [eq_comm]

section AppendLines

variable {c : Chapter} {place : Nat} {lines extra : List String} {commands more : Sequence}

/-- Of sequences chosen one by one, further lines at a place matter for the one at this place. -/
theorem filterMap_appendLines {β : Type} {f g : List String × Nat → Option β}
    (hlines : c.sequences[place]? = some lines)
    (hplace : f (lines ++ extra, place) = g (lines, place))
    (hother : ∀ ls i, i ≠ place → f (ls, i) = g (ls, i)) :
    (c.appendLines place extra).sequences.zipIdx.filterMap f = c.sequences.zipIdx.filterMap g := by
  rw [zipIdx_appendLines, List.filterMap_map]
  refine List.filterMap_congr fun entry hentry => ?_
  obtain ⟨ls, i⟩ := entry
  have hls : c.sequences[i]? = some ls := List.mem_zipIdx_iff_getElem?.1 hentry
  rw [Function.comp_apply]
  dsimp only
  by_cases h : i = place
  · subst h
    obtain rfl : ls = lines := Option.some.inj (hls.symm.trans hlines)
    rw [if_pos rfl, hplace]
  · rw [if_neg h, hother ls i h]

/-- Lines behind a sequence that compiles add their commands to it. -/
theorem compiled_appendLines (hlines : c.sequences[place]? = some lines)
    (hcompile : Sequence.compile lines = .ok commands)
    (hextra : extra.map Command.compile = more.map .ok) :
    (c.appendLines place extra).compiled = c.compiled.map (extendAt place more) := by
  rw [compiled, compiled, List.map_filterMap]
  refine filterMap_appendLines hlines ?_ ?_
  · simp [hcompile, Sequence.compile_append hcompile hextra, extendAt]
  · intro ls i h
    cases hls : Sequence.compile ls <;> simp [hls, extendAt, h]

/-- Lines behind a sequence that compiles do not change which sequences do not run. -/
theorem rejected_appendLines (hlines : c.sequences[place]? = some lines)
    (hcompile : Sequence.compile lines = .ok commands)
    (hextra : extra.map Command.compile = more.map .ok) :
    (c.appendLines place extra).rejected = c.rejected := by
  rw [rejected, rejected]
  refine filterMap_appendLines hlines ?_ fun _ _ _ => rfl
  simp [hcompile, Sequence.compile_append hcompile hextra]

end AppendLines

end Chapter

/-! ## Nothing leaks -/

/-- Two replays are the same, but for the last outcomes of the sequence at a place, of which the
first has this many more. -/
structure Replay.SameBut (place count : Nat) (a b : Replay) : Prop where
  /-- The responses. -/
  response : a.response = b.response
  /-- The variables of all scopes, and the use counts of chapters by name. -/
  store : a.store = b.store
  /-- The use counts of the replayed chapters. -/
  uses : a.chapter.uses = b.chapter.uses
  /-- The sequences that did not run, and why. -/
  rejected : a.report.rejected = b.report.rejected
  /-- The sequences that ran, and their outcomes. -/
  executed : a.report.executed.map (dropLastAt place count) = b.report.executed

/-- What is left of local variables in a replay of a chapter. -/
structure Chapter.LocalsEnd (c : Chapter) (request : Request) (response : Response)
    (s : Store) : Prop where
  /-- Further lines of a sequence that runs, all of which stay local, leave the replay the same. -/
  further : ∀ (place : Nat) (lines extra : List String), c.sequences[place]? = some lines →
    Sequence.compiles lines = true → Sequence.staysLocal extra = true →
      ((c.appendLines place extra).replay request response s).SameBut place extra.length
        (c.replay request response s)
  /-- There are none behind each of the sequences that run. -/
  empty : ∀ ran later, c.compiled = ran ++ later → ran ≠ [] →
    ((c.begin request response s).runAll ran).1.store.locals = .empty

/-- No local variables are left by sequences that have run. -/
theorem Visit.locals_runAll (v : Visit) {sequences : List (Nat × Sequence)}
    (h : sequences ≠ []) : (v.runAll sequences).1.store.locals = .empty := by
  induction sequences generalizing v with
  | nil => exact absurd rfl h
  | cons entry rest ih =>
    rw [runAll_cons]
    cases rest with
    | nil => rfl
    | cons next rest => exact ih (v.run entry.2).1 (List.cons_ne_nil next rest)

/-- A fixture has no local variables, and none are left by its replay. -/
theorem Fixture.locals_replay (f : Fixture) : f.replay.store.locals = .empty := by
  rw [replay, Chapter.replay]
  dsimp only
  cases hcompiled : f.toChapter.compiled with
  | nil => rfl
  | cons entry rest => exact Visit.locals_runAll _ (List.cons_ne_nil entry rest)

namespace Chapter

variable (request : Request) (response : Response) (s : Store)

/-- Further lines of a sequence that stay local leave the replay of its chapter the same. -/
theorem sameBut_appendLines {c : Chapter} {place : Nat} {lines extra : List String}
    (hlines : c.sequences[place]? = some lines) (hcompiles : Sequence.compiles lines = true)
    (hextra : Sequence.staysLocal extra = true) :
    ((c.appendLines place extra).replay request response s).SameBut place extra.length
      (c.replay request response s) := by
  obtain ⟨commands, hcompile⟩ := Sequence.compiles_iff.1 hcompiles
  obtain ⟨more, hmore, hlocals⟩ := Sequence.exists_commands_of_staysLocal hextra
  have hlength : extra.length = more.length := by
    rw [← List.length_map Command.compile, hmore, List.length_map]
  have hcompiled := compiled_appendLines hlines hcompile hmore
  have hbegin : (c.appendLines place extra).begin request response s = c.begin request response s :=
    rfl
  have hname : (c.appendLines place extra).name = c.name := rfl
  obtain ⟨hvisit, hexecuted⟩ :=
    (c.begin request response s).runAll_extendAt place hlocals c.compiled
  constructor
  · simp only [replay, hbegin, hcompiled, hvisit]
  · simp only [replay, hbegin, hcompiled, hvisit, hname]
  · simp only [replay, hbegin, hcompiled, hvisit]
  · simp only [replay, rejected_appendLines hlines hcompile hmore]
  · simp only [replay, hbegin, hcompiled, hlength, hexecuted]

/-- Local variables end with their sequence: what a sequence sets in the local scope behind all its
other commands is seen by nothing, and there are none between sequences and after a replay. -/
theorem localsEnd (c : Chapter) :
    c.LocalsEnd request response s ∧ ∀ f : Fixture, f.replay.store.locals = .empty := by
  refine ⟨⟨?_, ?_⟩, Fixture.locals_replay⟩
  · intro place lines extra hlines hcompiles hextra
    exact sameBut_appendLines request response s hlines hcompiles hextra
  · intro ran later _ hran
    exact Visit.locals_runAll _ hran

/-- Lines that take a token from the request. -/
def takingToken : List String :=
  ["request:body:\x7btoken=([a-z]+)\x7d->token", "var[token]->&first"]

/-- A chapter whose last sequence looks for the variables of the first one. -/
def peeking : Chapter :=
  ⟨"login", 0, [
    takingToken,
    ["response:body:\x7b"],
    ["~?var[token]->&second", "~?^var[copy]->&third", "~?var->&fourth"]]⟩

/-- Lines that the first of these sequences can end with unnoticed. -/
def unnoticed : List String := [
  "request:body:\x7b([a-z])\x7d->copy?#@_#", "~?var[copy]:\x7b[0-9]\x7d",
  "?use:\x7b>5\x7d->third", "var[copy_0]->token"]

/-- A request with a token. -/
def tokenRequest : Request :=
  ⟨"POST", "/login", .empty, "token=abc"⟩

/-- The replay of this request is the same with these lines. -/
theorem localsEnd_peeking :
    Sequence.compiles takingToken = true ∧ Sequence.staysLocal unnoticed = true ∧
      ((peeking.appendLines 0 unnoticed).replay tokenRequest .empty .empty).SameBut 0 4
        (peeking.replay tokenRequest .empty .empty) := by
  have hcompiles : Sequence.compiles takingToken = true := by decide +kernel
  have hlocal : Sequence.staysLocal unnoticed = true := by decide +kernel
  exact ⟨hcompiles, hlocal, (localsEnd tokenRequest .empty .empty peeking).1.further 0 takingToken
    unnoticed rfl hcompiles hlocal⟩

end Chapter

end Playback
