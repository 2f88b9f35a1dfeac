import Playback.Proofs.Chapter.Isolation
import Playback.Proofs.Fallible

/-!
# Lines that compile

A sequence compiles when each of its lines does, so that a chapter rejects nothing exactly when all
of its lines compile.
-/

namespace Playback

namespace Sequence

theorem compileFrom_cons (index : Nat) (line : String) (lines : List String) :
    compileFrom index (line :: lines) =
      match Command.compile line with
      | .error cause => .error ⟨index, line, cause⟩
      | .ok command => (command :: ·) <$> compileFrom (index + 1) lines :=
  Eq.refl _

/-- Lines compile to commands when each of them does. -/
theorem compileFrom_eq_ok_iff {index : Nat} {lines : List String} {commands : Sequence} :
    compileFrom index lines = .ok commands ↔ lines.map Command.compile = commands.map .ok := by
  induction lines generalizing index commands with
  | nil =>
    change Except.ok [] = Except.ok commands ↔ _
    rw [List.map_nil, eq_comm (a := []), List.map_eq_nil_iff, Except.ok.injEq, eq_comm]
  | cons line lines ih =>
    rw [compileFrom_cons, List.map_cons]
    cases hline : Command.compile line with
    | error cause => cases commands <;> simp
    | ok command =>
      cases commands with
      | nil => simp [map_eq_ok_iff]
      | cons c commands => simp [map_eq_ok_iff, ih, and_assoc, and_comm]

/-- Lines that compile behind others that do are compiled to the commands of both. -/
theorem compile_append {lines extra : List String} {commands more : Sequence}
    (hlines : compile lines = .ok commands)
    (hextra : extra.map Command.compile = more.map .ok) :
    compile (lines ++ extra) = .ok (commands ++ more) := by
  rw [compile, compileFrom_eq_ok_iff] at hlines ⊢
  rw [List.map_append, List.map_append, hlines, hextra]

/-- Lines that compile, each to a command of some kind, are those of a sequence of such commands. -/
theorem exists_commands {P : Command → Prop} {lines : List String}
    (h : ∀ line ∈ lines, ∃ c, Command.compile line = .ok c ∧ P c) :
    ∃ commands : Sequence, lines.map Command.compile = commands.map .ok ∧ ∀ c ∈ commands, P c := by
  induction lines with
  | nil => exact ⟨[], rfl, by simp⟩
  | cons line lines ih =>
    rw [List.forall_mem_cons] at h
    obtain ⟨⟨c, hcompile, hc⟩, hrest⟩ := h
    obtain ⟨commands, hcommands, hall⟩ := ih hrest
    refine ⟨c :: commands, ?_, ?_⟩
    · rw [List.map_cons, List.map_cons, hcompile, hcommands]
    · rw [List.forall_mem_cons]
      exact ⟨hc, hall⟩

/-- A sequence has commands when each of its lines has one. -/
theorem exists_compile_eq_ok_iff {lines : List String} :
    (∃ commands, compile lines = .ok commands) ↔
      ∀ line ∈ lines, ∃ c, Command.compile line = .ok c := by
  constructor
  · rintro ⟨commands, hcompile⟩ line hline
    have hlines : lines.map Command.compile = commands.map .ok :=
      compileFrom_eq_ok_iff.1 hcompile
    have hmem : Command.compile line ∈ commands.map .ok := hlines ▸ List.mem_map_of_mem hline
    obtain ⟨command, -, hcommand⟩ := List.mem_map.1 hmem
    exact ⟨command, hcommand.symm⟩
  · intro h
    have hok : ∀ line ∈ lines, ∃ c, Command.compile line = .ok c ∧ True := by
      simpa using h
    obtain ⟨commands, hcommands, -⟩ := exists_commands hok
    exact ⟨commands, compileFrom_eq_ok_iff.2 hcommands⟩

/-- A sequence compiles when each of its lines does. -/
theorem compiles_iff_forall {lines : List String} :
    compiles lines = true ↔ ∀ line ∈ lines, (Command.compile line).isOk = true := by
  have hline (line : String) :
      (Command.compile line).isOk = true ↔ ∃ c, Command.compile line = .ok c := by
    cases Command.compile line with
    | ok command => exact iff_of_true rfl ⟨command, rfl⟩
    | error cause => exact iff_of_false Bool.false_ne_true fun ⟨_, h⟩ => (nomatch h)
  simp only [compiles_iff, exists_compile_eq_ok_iff, hline]

end Sequence

namespace Chapter

variable (c : Chapter)

/-- A sequence that compiles is kept at its place. -/
theorem mem_compiled_iff {place : Nat} {commands : Sequence} :
    (place, commands) ∈ c.compiled ↔
      ∃ lines, c.sequences[place]? = some lines ∧ Sequence.compile lines = .ok commands := by
  simp only [compiled, List.mem_filterMap, Prod.exists, List.mem_zipIdx_iff_getElem?]
  constructor
  · rintro ⟨lines, other, hlines, hkept⟩
    cases hcompile : Sequence.compile lines with
    | error fault =>
      rw [hcompile] at hkept
      cases hkept
    | ok found =>
      rw [hcompile] at hkept
      cases hkept
      exact ⟨lines, hlines, hcompile⟩
  · rintro ⟨lines, hlines, hcompile⟩
    exact ⟨lines, place, hlines, by rw [hcompile]⟩

/-- A sequence that does not compile is rejected at its place. -/
theorem mem_rejected_iff {rejection : Rejection} :
    rejection ∈ c.rejected ↔
      ∃ lines, c.sequences[rejection.sequence]? = some lines ∧
        Sequence.compile lines = .error rejection.fault := by
  simp only [rejected, List.mem_filterMap, Prod.exists, List.mem_zipIdx_iff_getElem?]
  constructor
  · rintro ⟨lines, place, hlines, hkept⟩
    cases hcompile : Sequence.compile lines with
    | ok commands =>
      rw [hcompile] at hkept
      cases hkept
    | error fault =>
      rw [hcompile] at hkept
      cases hkept
      exact ⟨lines, hlines, hcompile⟩
  · rintro ⟨lines, hlines, hcompile⟩
    exact ⟨lines, rejection.sequence, hlines, by rw [hcompile]⟩

/-- A chapter rejects nothing when all of its lines compile. -/
theorem rejected_eq_nil_iff :
    c.rejected = [] ↔ ∀ line ∈ c.sequences.flatten, (Command.compile line).isOk = true := by
  have hsequences : c.rejected = [] ↔ ∀ lines ∈ c.sequences, Sequence.compiles lines = true := by
    simp only [List.eq_nil_iff_forall_not_mem, mem_rejected_iff]
    simp only [List.mem_iff_getElem?]
    constructor
    · rintro h lines ⟨place, hlines⟩
      cases hcompile : Sequence.compile lines with
      | ok commands => exact Sequence.compiles_iff.2 ⟨commands, hcompile⟩
      | error fault => exact absurd ⟨lines, hlines, hcompile⟩ (h ⟨place, fault⟩)
    · rintro h rejection ⟨lines, hlines, hcompile⟩
      obtain ⟨commands, hok⟩ := Sequence.compiles_iff.1 (h lines ⟨_, hlines⟩)
      rw [hcompile] at hok
      cases hok
  simp only [hsequences, Sequence.compiles_iff_forall, List.mem_flatten]
  constructor
  · rintro h line ⟨lines, hlines, hline⟩
    exact h lines hlines line hline
  · intro h lines hlines line hline
    exact h line ⟨lines, hlines, hline⟩

end Chapter

end Playback
