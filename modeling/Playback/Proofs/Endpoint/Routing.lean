import Playback.Endpoint.Route

/-!
# What there is to do

The fixture that is loaded and the lines that are checked, told by relations between the arguments,
the files and the input. Either there is a fixture, or one of four things is wrong; either there are
lines, or one of four things is wrong. The loader and the routes follow these relations.
-/

namespace Playback

open Text

/-! ## Loading a fixture -/

namespace Fixture

/-- A fixture is what the named file says, or the file of the folder if none is named. -/
structure Loads (folder : Folder) (name : Option String) (f : Fixture) : Prop where
  /-- The file can be read, and its text is a fixture. -/
  written : ∃ file s, fileName? folder name = some file ∧ folder.readText file = .ok s ∧
    Fixture.read s = .ok f
  /-- The fixture has no problems. -/
  sound : f.problems = []

/-- There is no fixture to load. -/
inductive Unloadable (folder : Folder) (name : Option String) : Prop where
  /-- No file is named, and the folder has none. -/
  | notFound (hfile : fileName? folder name = none)
  /-- The file cannot be read as a text. -/
  | unreadable {file : String} {fault : ReadFault} (hfile : fileName? folder name = some file)
      (hread : folder.readText file = .error fault)
  /-- The text is no fixture. -/
  | undecodable {file s : String} {fault : DecodeFault} (hfile : fileName? folder name = some file)
      (hread : folder.readText file = .ok s) (hdecode : Fixture.read s = .error fault)
  /-- The fixture has problems. -/
  | invalid {file s : String} {f : Fixture} (hfile : fileName? folder name = some file)
      (hread : folder.readText file = .ok s) (hdecode : Fixture.read s = .ok f)
      (hproblems : f.problems ≠ [])

variable {folder : Folder} {name : Option String} {f : Fixture}

/-- There is a fixture to load, or there is none. -/
theorem loads_or_unloadable (folder : Folder) (name : Option String) :
    (∃ f, Loads folder name f) ∨ Unloadable folder name := by
  cases hfile : fileName? folder name with
  | none => exact .inr (.notFound hfile)
  | some file =>
    cases hread : folder.readText file with
    | error fault => exact .inr (.unreadable hfile hread)
    | ok s =>
      cases hdecode : Fixture.read s with
      | error fault => exact .inr (.undecodable hfile hread hdecode)
      | ok f =>
        by_cases hproblems : f.problems = []
        · exact .inl ⟨f, ⟨file, s, hfile, hread, hdecode⟩, hproblems⟩
        · exact .inr (.invalid hfile hread hdecode hproblems)

/-- A fixture that is there is loaded. -/
theorem Loads.load_eq (h : Loads folder name f) : load folder name = .ok f := by
  obtain ⟨⟨file, s, hfile, hread, hdecode⟩, hsound⟩ := h
  simp [load, hfile, hread, hdecode, validate, hsound]

/-- Where there is no fixture, none is loaded. -/
theorem Unloadable.load_eq (h : Unloadable folder name) :
    ∃ fault, load folder name = .error fault := by
  cases h with
  | notFound hfile => simp [load, hfile]
  | unreadable hfile hread => simp [load, hfile, hread]
  | undecodable hfile hread hdecode => simp [load, hfile, hread, hdecode]
  | invalid hfile hread hdecode hproblems =>
    simp [load, hfile, hread, hdecode, validate, hproblems]

end Fixture

/-! ## Texts of an input -/

/-- The bytes of a text are read as that text. -/
theorem textOfBytes_toUTF8 (s : String) : textOfBytes s.toUTF8 = .ok s := by
  have hread : String.fromUTF8? s.toUTF8 = some s := by
    unfold String.fromUTF8?
    rw [String.toUTF8_eq_toByteArray, dif_pos s.isValidUTF8]
    rfl
  rw [textOfBytes, hread]

/-- Bytes that are not those of a text are not read. -/
theorem textOfBytes_of_ne {bytes : ByteArray} (h : ∀ s : String, s.toUTF8 ≠ bytes) :
    textOfBytes bytes = .error .notText := by
  have hread : String.fromUTF8? bytes = none := by
    unfold String.fromUTF8?
    refine dif_neg fun hvalid => h (String.fromUTF8 bytes hvalid) ?_
    rfl
  rw [textOfBytes, hread]

/-! ## Lines to check -/

namespace CheckArguments

/-- The lines to check. -/
inductive Routed (folder : Folder) (input : ByteArray) : CheckArguments → List String → Prop where
  /-- The line of the arguments. -/
  | command {line : String} {name : Option String} : Routed folder input ⟨some line, name⟩ [line]
  /-- The lines of all sequences of the named fixture. -/
  | fixture {name : String} {f : Fixture} (h : f.Loads folder (some name)) :
      Routed folder input ⟨none, some name⟩ f.sequences.flatten
  /-- The command of a JSON object. -/
  | object {s line : String} {fields : List (String × Json)} (htext : s.toUTF8 = input)
      (hobject : Json.read? s = some (.object fields))
      (hcommand : Json.field? "command" fields = some (.text line)) :
      Routed folder input ⟨none, none⟩ [line]
  /-- The lines of an input that is no JSON object. -/
  | rows {s : String} (htext : s.toUTF8 = input)
      (hobject : ∀ fields, Json.read? s ≠ some (.object fields)) (hlines : commandLines s ≠ []) :
      Routed folder input ⟨none, none⟩ (commandLines s)

/-- There are no lines to route. -/
inductive Unrouted (folder : Folder) (input : ByteArray) : CheckArguments → Prop where
  /-- The named fixture cannot be loaded. -/
  | fixture {name : String} (h : Fixture.Unloadable folder (some name)) :
      Unrouted folder input ⟨none, some name⟩
  /-- The input is no text. -/
  | noText (htext : ∀ s : String, s.toUTF8 ≠ input) : Unrouted folder input ⟨none, none⟩
  /-- The input is a JSON object without a text for its command. -/
  | noCommand {s : String} {fields : List (String × Json)} (htext : s.toUTF8 = input)
      (hobject : Json.read? s = some (.object fields))
      (hcommand : ∀ line, Json.field? "command" fields ≠ some (.text line)) :
      Unrouted folder input ⟨none, none⟩
  /-- The input is no JSON object and has no lines. -/
  | noLines {s : String} (htext : s.toUTF8 = input)
      (hobject : ∀ fields, Json.read? s ≠ some (.object fields)) (hlines : commandLines s = []) :
      Unrouted folder input ⟨none, none⟩

variable {folder : Folder} {input : ByteArray} {arguments : CheckArguments} {lines : List String}

/-- There are lines to check, or there are none to route. -/
theorem routed_or_unrouted (folder : Folder) (input : ByteArray) (arguments : CheckArguments) :
    (∃ lines, Routed folder input arguments lines) ∨ Unrouted folder input arguments := by
  obtain ⟨command, fixture⟩ := arguments
  cases command with
  | some line => exact .inl ⟨[line], .command⟩
  | none =>
    cases fixture with
    | some name =>
      rcases Fixture.loads_or_unloadable folder (some name) with ⟨f, hf⟩ | hnone
      · exact .inl ⟨_, .fixture hf⟩
      · exact .inr (.fixture hnone)
    | none =>
      by_cases htext : ∃ s : String, s.toUTF8 = input
      · obtain ⟨s, hs⟩ := htext
        by_cases hobject : ∃ fields, Json.read? s = some (.object fields)
        · obtain ⟨fields, hfields⟩ := hobject
          by_cases hcommand : ∃ line, Json.field? "command" fields = some (.text line)
          · obtain ⟨line, hline⟩ := hcommand
            exact .inl ⟨[line], .object hs hfields hline⟩
          · exact .inr (.noCommand hs hfields (not_exists.1 hcommand))
        · by_cases hlines : commandLines s = []
          · exact .inr (.noLines hs (not_exists.1 hobject) hlines)
          · exact .inl ⟨_, .rows hs (not_exists.1 hobject) hlines⟩
      · exact .inr (.noText (not_exists.1 htext))

/-- An object without a text for its command has no command. -/
theorem commandOf_of_ne_text {fields : List (String × Json)}
    (h : ∀ line, Json.field? "command" fields ≠ some (.text line)) :
    ∃ fault, commandOf fields = .error fault := by
  unfold commandOf
  split
  · exact ⟨_, rfl⟩
  · next line hline => exact absurd hline (h line)
  · exact ⟨_, rfl⟩

/-- An input that is no JSON object holds its rows. -/
theorem linesOfInput_of_ne_object {s : String}
    (h : ∀ fields, Json.read? s ≠ some (.object fields)) :
    linesOfInput s =
      if (commandLines s).isEmpty then .error .noCommands else .ok (commandLines s) := by
  unfold linesOfInput
  split
  · next fields hobject => exact absurd hobject (h fields)
  · rfl

/-- Lines that are there are checked. -/
theorem Routed.ofCheck_eq (h : Routed folder input arguments lines) :
    Endpoint.ofCheck arguments folder input = .ok (.check lines) := by
  cases h with
  | command => rfl
  | fixture hload => simp only [Endpoint.ofCheck, hload.load_eq, Endpoint.ofFixture]
  | object htext hobject hcommand =>
    subst htext
    simp only [Endpoint.ofCheck, textOfBytes_toUTF8, linesOfInput, hobject, commandOf, hcommand]
    rfl
  | rows htext hobject hlines =>
    subst htext
    simp only [Endpoint.ofCheck, textOfBytes_toUTF8, linesOfInput_of_ne_object hobject,
      List.isEmpty_eq_false_iff.2 hlines]
    rfl

/-- Where there are no lines to route, nothing is checked. -/
theorem Unrouted.ofCheck_eq (h : Unrouted folder input arguments) :
    ∃ fault, Endpoint.ofCheck arguments folder input = .error fault := by
  cases h with
  | fixture hnone =>
    obtain ⟨fault, hload⟩ := hnone.load_eq
    exact ⟨.fixture fault, by simp only [Endpoint.ofCheck, hload]⟩
  | noText htext =>
    exact ⟨.input .notText, by simp only [Endpoint.ofCheck, textOfBytes_of_ne htext]⟩
  | noCommand htext hobject hcommand =>
    subst htext
    obtain ⟨fault, hfault⟩ := commandOf_of_ne_text hcommand
    refine ⟨.noCommandField fault, ?_⟩
    simp only [Endpoint.ofCheck, textOfBytes_toUTF8, linesOfInput, hobject, hfault]
    rfl
  | noLines htext hobject hlines =>
    subst htext
    refine ⟨.noCommands, ?_⟩
    simp only [Endpoint.ofCheck, textOfBytes_toUTF8, linesOfInput_of_ne_object hobject, hlines]
    rfl

end CheckArguments

end Playback
