import Playback.Proofs.Command.Judging
import Playback.Proofs.Command.RoundTrip
import Playback.Proofs.Visit.Course

/-!
# Reading back what an extraction writes

A source can name the variable that an extraction writes for its value, and those for the values
that it spreads one by one: their names keep to the rules for names, whatever the name of the target
and the number of the value. So the line that names such a variable is read as that variable, and
finds in it what the extraction has written there.
-/

namespace Playback

open Text

/-! ## Names of variables -/

/-- A name with an underscore and a number behind it is a name. -/
theorem isName_numbered {name : List Char} (h : isName name = true) (i : Nat) :
    isName (name ++ '_' :: natDigits i) = true := by
  obtain ⟨⟨c, rest, rfl, hc⟩, hall, -⟩ := isName_iff.1 h
  refine isName_iff.2 ⟨⟨c, rest ++ '_' :: natDigits i, rfl, hc⟩, ?_, ?_⟩
  · have hdigits (d : Char) (hd : d ∈ natDigits i) : isNameChar d = true := by
      have hdigit := isDigit_of_mem_natDigits hd
      rw [isDigit_eq] at hdigit
      simp [isNameChar, Char.isAlphanum, hdigit]
    intro d hd
    rcases List.mem_append.1 hd with hd | hd
    · exact hall d hd
    · rcases List.mem_cons.1 hd with rfl | hd
      · decide
      · exact hdigits d hd
  · intro hlast
    obtain ⟨d, hd⟩ : ∃ d, (natDigits i).getLast? = some d :=
      Option.isSome_iff_exists.1 (List.getLast?_isSome.2 (natDigits_ne_nil i))
    rw [List.getLast?_append, List.getLast?_cons, hd] at hlast
    obtain rfl : d = '_' := by simpa using hlast
    exact absurd (isDigit_of_mem_natDigits (List.mem_of_getLast? hd)) (by decide)

/-- The variables for the value of an extraction and for single captured values have names, and no
others that an extraction may write. -/
theorem Detail.isName_key_iff {name : String} (h : isName name.toList = true) (d : Detail) :
    isName (d.key name).toList = true ↔ d = .value ∨ ∃ i, d = .item i := by
  have hsign {c : Char} (hc : isNameChar c = false) (hmem : c ∈ d.suffix.toList) :
      isName (d.key name).toList ≠ true := by
    intro hkey
    have hchar := (isName_iff.1 hkey).2.1 c (by simp [key, hmem])
    rw [hc] at hchar
    cases hchar
  cases d with
  | value => simpa [key, suffix] using h
  | item i =>
    have hchars : (key name (.item i)).toList = name.toList ++ '_' :: natDigits i := by
      simp [key, suffix, natText]
    simpa [hchars] using isName_numbered h i
  | matched => simpa using hsign (c := '?') (by decide) (by decide)
  | count => simpa using hsign (c := '#') (by decide) (by decide)
  | passed => simpa using hsign (c := '@') (by decide) (by decide)
  | last => simpa using hsign (c := '?') (by decide) (by decide)
  | index i => simpa using hsign (c := '#') (by decide) (by simp [suffix])

/-! ## Lines that name variables -/

/-- The line that names a variable of a scope. -/
def Scope.variableLine (scope : Scope) (name : String) : String :=
  String.ofList scope.sign ++ "var[" ++ name ++ "]"

/-- The command that does nothing but name a variable of a scope. -/
def Command.ofVariable (scope : Scope) (name : String) : Command :=
  ⟨none, .variable scope false (some name) none, none⟩

/-- The command is written as its line. -/
theorem Command.text_ofVariable (scope : Scope) (name : String) :
    (ofVariable scope name).text = scope.variableLine name := by
  have hchars : (ofVariable scope name).shape.chars =
      scope.sign ++ ("var[".toList ++ (name.toList ++ [']'])) := by
    cases scope <;> simp [Command.shape, Shape.chars, Shape.layout, ofVariable, Source.shape,
      SourceShape.layout, Scope.layout, Scope.sign, bracketLayout, braceLayout]
  rw [Command.text, hchars, Scope.variableLine, ← String.toList_inj]
  simp

/-- The line that names a variable is read as the command. -/
theorem Command.read_variableLine {name : String} (h : isName name.toList = true)
    (scope : Scope) : read (scope.variableLine name) = .ok (ofVariable scope name) := by
  have hwellFormed : (ofVariable scope name).WellFormed := by
    constructor
    · refine ⟨?_, by rintro p ⟨⟩⟩
      rintro n ⟨⟩
      exact h
    · rintro action ⟨⟩
  rw [read_eq_ok_iff, ← wellFormed_iff]
  exact ⟨text_ofVariable scope name, hwellFormed⟩

/-- The groups of the line that names a variable have the variable's name. -/
theorem Groups.value?_variableLine {name : String} (h : isName name.toList = true)
    (scope : Scope) :
    (Groups.ofLine (scope.variableLine name)).value? .variableName = some name := by
  let shape := (Command.ofVariable scope name).shape
  have hlegible : shape.Legible := by
    refine ⟨⟨?_, by rintro cs ⟨⟩⟩, by rintro action ⟨⟩⟩
    rintro cs ⟨⟩
    exact h
  have hchars : shape.chars = (scope.variableLine name).toList := by
    rw [← Command.text_ofVariable, Command.text, String.toList_ofList]
  have hread : Shape.read? (scope.variableLine name).toList = some shape := by
    rw [← hchars]
    exact Shape.read?_chars hlegible (by rintro b ⟨⟩)
  rw [ofLine_of_read? hread, Shape.value?_groups, lookup_of_mem_sourceNames (by decide)]
  cases scope <;> simp [shape, Command.ofVariable, Command.shape, Source.shape,
    SourceShape.layout, Scope.layout, bracketLayout]

/-! ## Extractions -/

namespace Visit

/-- A variable of a scope can be read by its name, and has a value. -/
structure ReadsBack (v : Visit) (scope : Scope) (name value : String) : Prop where
  /-- The line that names the variable has the form of a command with this name in it. -/
  named : (Groups.ofLine (scope.variableLine name)).value? .variableName = some name
  /-- It is read as the variable, without a gate, a search outward, a pattern or an action. -/
  read : Command.read (scope.variableLine name) =
    .ok ⟨none, .variable scope false (some name) none, none⟩
  /-- The variable is found. -/
  matched : (v.find (.variable scope false (some name) none)).matched = true
  /-- What is found is its value. -/
  first : (v.find (.variable scope false (some name) none)).first? = some value

/-- A variable whose name is one can be read by its name. -/
theorem readsBack_of_get? {v : Visit} {scope : Scope} {name value : String}
    (hname : isName name.toList = true) (h : v.store.get? scope name = some value) :
    v.ReadsBack scope name value := by
  have hfind : v.find (.variable scope false (some name) none) = ⟨[value], []⟩ := by
    simp [find, Store.lookup, h]
  constructor
  case named => exact Groups.value?_variableLine hname scope
  case read => exact Command.read_variableLine hname scope
  case matched =>
    rw [hfind]
    rfl
  case first =>
    rw [hfind]
    rfl

/-- Of a line that compiles to an extraction the target has a name. -/
theorem isName_of_compile {line : String} {c : Command} {target : Target}
    (hcompile : Command.compile line = .ok c) (haction : c.action = some (.extract target)) :
    isName target.name.toList = true := by
  obtain ⟨hread, -⟩ := Command.compile_eq_ok_iff.1 hcompile
  have hwellFormed : c.WellFormed := (Command.wellFormed_iff c).2 (Command.read_eq_ok_iff.1 hread).2
  exact (hwellFormed.action _ haction).1

/-- What an extraction whose gate has passed writes for its value can be read back by the name of
its target, and so can all captured values that it spreads, each by the name with its number. -/
theorem readsBack_execute {v : Visit} {line : String} {c : Command} {target : Target}
    (hcompile : Command.compile line = .ok c) (haction : c.action = some (.extract target))
    (hpassed : c.passes (v.find c.source).matched = true) :
    (v.execute c).2 = .applied true ∧
      (v.execute c).1.ReadsBack target.scope target.name
        ((v.find c.source).first?.getD "true") ∧
      (target.spread = .all → ∀ (i : Nat) (hi : i < (v.find c.source).captured.length),
        (v.execute c).1.ReadsBack target.scope (target.name ++ "_" ++ natText i)
          (v.find c.source).captured[i]) := by
  have hname : isName target.name.toList = true := isName_of_compile hcompile haction
  have hends : v.Ends c .extracted _ := .extracted target true hpassed (.inl rfl) haction
  have hextracted := v.extracted_setAll target (v.find c.source) true
  rw [hends.execute_eq]
  have hdetail {d : Detail} {text : String} (hkey : d = .value ∨ ∃ i, d = .item i)
      (htext : target.detail? (v.find c.source) true d = some text) :
      ReadsBack _ target.scope (d.key target.name) text :=
    readsBack_of_get? ((d.isName_key_iff hname).2 hkey) (hextracted.told d text htext)
  refine ⟨rfl, ?_, fun hspread i hi => ?_⟩
  · have htext : target.detail? (v.find c.source) true .value =
        some ((v.find c.source).first?.getD "true") := by
      cases hfirst : (v.find c.source).first? <;> simp [Target.detail?, hfirst, boolText]
    have hvalue : Detail.key target.name .value = target.name := String.append_empty
    rw [← hvalue]
    exact hdetail (.inl rfl) htext
  · have htext : target.detail? (v.find c.source) true (.item i) =
        some (v.find c.source).captured[i] := by
      simp [Target.detail?, hspread, hi]
    have hitem : Detail.key target.name (.item i) = target.name ++ "_" ++ natText i :=
      String.append_assoc.symm
    rw [← hitem]
    exact hdetail (.inr ⟨i, rfl⟩) htext

/-- A visit with two variables of the chapter, one named as a spread value of the other. -/
def overwritten : Visit :=
  ⟨.empty, .empty, (Store.empty.set .chapter "a-" "x").set .chapter "a-_0" "y", 0⟩

/-- A command that spreads all variables of the chapter over the same variables. -/
def spreadOver : Command :=
  ⟨none, .variable .chapter false none none,
    some (.extract ⟨.chapter, "a-", false, false, false, .all⟩)⟩

/-- The old value of the second variable is read back under the number that it has been given. -/
theorem readsBack_overwritten :
    Command.compile "&var->&a-_#" = .ok spreadOver ∧
      Scope.variableLine .chapter "a-_1" = "&var[a-_1]" ∧
      (overwritten.execute spreadOver).1.ReadsBack .chapter "a-" "x" ∧
      (overwritten.execute spreadOver).1.ReadsBack .chapter "a-_0" "x" ∧
      (overwritten.execute spreadOver).1.ReadsBack .chapter "a-_1" "y" := by
  have hcompile : Command.compile "&var->&a-_#" = .ok spreadOver := by decide +kernel
  have hcaptured : (overwritten.find spreadOver.source).captured = ["x", "y"] := by decide +kernel
  have hzero : natText 0 = "0" := by decide +kernel
  have hone : natText 1 = "1" := by decide +kernel
  obtain ⟨-, hvalue, hspread⟩ :=
    readsBack_execute (v := overwritten) hcompile rfl (by decide +kernel)
  refine ⟨hcompile, by decide +kernel, hvalue, ?_, ?_⟩
  · simpa [hcaptured, hzero] using hspread rfl 0 (by rw [hcaptured]; decide)
  · simpa [hcaptured, hone] using hspread rfl 1 (by rw [hcaptured]; decide)

end Visit

end Playback
