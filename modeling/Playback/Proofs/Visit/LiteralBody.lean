import Playback.Proofs.Command.Judging
import Playback.Proofs.Command.RoundTrip
import Playback.Proofs.Template.Segments
import Playback.Proofs.Visit.Effect

/-!
# Bodies written as literals

Any text of one line without an opening mark can be written into a command as it is, once its arrows
are escaped: braces, backslashes and quotes need no care. The line compiles, and its command makes
the text the body of the response, whatever the visit.
-/

namespace Playback

open Text

/-- A template that renders to a text without opening marks. -/
def Template.ofText (text : String) : Template :=
  ⟨String.ofList (escapeArrows text.toList)⟩

/-- A text without opening marks is what its template renders to. -/
theorem Template.render_ofText {text : String} (h : ¬ opening <:+: text.toList)
    (resolve : Resolver) : (Template.ofText text).render resolve = text := by
  have hplain : ¬ opening <:+: escapeArrows text.toList :=
    fun hopen => h (pair_infix_of_escapeArrows (by decide) (by decide) hopen)
  rw [render_eq, ofText, String.toList_ofList, readSegments_of_plain hplain, renderAll_textSegment,
    unescapeArrows_escapeArrows, String.ofList_toList]

namespace Command

/-- The line that makes a text the body of the response. -/
def bodyLine (text : String) : String :=
  "response:body->\x7b" ++ String.ofList (Template.escapeArrows text.toList) ++ "\x7d"

/-- The command that makes a text the body of the response. -/
def setBody (text : String) : Command :=
  ⟨none, .body .response none, some (.replace (.ofText text))⟩

/-- The command is written as its line. -/
theorem text_setBody (text : String) : (setBody text).text = bodyLine text := by
  have hchars : (setBody text).shape.chars =
      "response:body->\x7b".toList ++ (Template.escapeArrows text.toList ++ ['}']) := by
    simp only [Command.shape, Shape.chars, Shape.layout, setBody, Source.shape, Action.shape,
      Option.map_none, Option.map_some, SourceShape.layout, Template.ofText,
      String.toList_ofList, braceLayout]
    rfl
  rw [Command.text, hchars, String.ofList_append, String.ofList_append, String.ofList_toList,
    ← String.append_assoc]
  rfl

/-- The line of a text compiles to its command. -/
theorem compile_bodyLine {text : String} (h : '\n' ∉ text.toList) :
    compile (bodyLine text) = .ok (setBody text) := by
  have hbody : IsBody (Template.escapeArrows text.toList) :=
    ⟨Template.not_mem_escapeArrows (by decide) h,
      Template.not_arrow_infix_escapeArrows (by decide) text.toList⟩
  have hwellFormed : (setBody text).WellFormed := by
    constructor
    · rintro p ⟨⟩
    · rintro action ⟨⟩
      simpa [Action.WellFormed, Template.ofText] using hbody
  rw [compile_eq_ok_iff, read_eq_ok_iff, ← wellFormed_iff]
  exact ⟨⟨text_setBody text, hwellFormed⟩, rfl⟩

end Command

/-- The line of a text without line ends and opening marks compiles, and its command makes exactly
this text the body of the response and changes nothing else. -/
theorem Visit.bodyWritten {text : String} (hline : '\n' ∉ text.toList)
    (hplain : ¬ Template.opening <:+: text.toList) :
    ∃ c, Command.compile (Command.bodyLine text) = .ok c ∧
      ∀ v : Visit, v.execute c =
        ({ v with response := { v.response with body := text } }, .applied true) := by
  refine ⟨Command.setBody text, Command.compile_bodyLine hline, fun v => ?_⟩
  have hpassed : (Command.setBody text).passes (v.find (Command.setBody text).source).matched =
      true := Bool.or_true _
  have hrendered (groups : List String) : (Template.ofText text).renderIn v.store groups = text :=
    Template.render_ofText hplain (v.store.resolver groups)
  rw [execute_of_passes rfl hpassed, Command.setBody, replace, replaceBody, hrendered]

/-- A text with separators, escaped and longer arrows, a quote, and a backslash at its end. -/
def Command.arrows : String :=
  "a\x7d->b\\->c-->\"\x7d\\"

/-- This text is written with three more backslashes. -/
theorem Visit.bodyWritten_arrows :
    '\n' ∉ Command.arrows.toList ∧ ¬ Template.opening <:+: Command.arrows.toList ∧
      Command.bodyLine Command.arrows =
        "response:body->\x7ba\x7d\\->b\\\\->c-\\->\"\x7d\\\x7d" ∧
      ∃ c, Command.compile (Command.bodyLine Command.arrows) = .ok c ∧
        ∀ v : Visit, v.execute c =
          ({ v with response := { v.response with body := Command.arrows } }, .applied true) := by
  have hline : '\n' ∉ Command.arrows.toList := by decide +kernel
  have hplain : ¬ Template.opening <:+: Command.arrows.toList := by decide +kernel
  exact ⟨hline, hplain, by decide +kernel, bodyWritten hline hplain⟩

end Playback
