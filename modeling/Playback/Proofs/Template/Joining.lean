import Playback.Proofs.Template.Quotes
import Playback.Proofs.Template.Segments

/-!
# Templates one behind the other

Rendering goes along with joining: a text in which every placeholder is closed, and which does not
end inside of an opening mark or an escaped arrow, renders by itself to the same text as before any
other template, be its placeholders closed or not.
-/

namespace Playback

open Text

namespace Template

/-- Every placeholder that reading meets in a text is closed: no opening mark is left in what
follows the last one. -/
inductive Closed : List Char → Prop where
  /-- No opening mark is left. -/
  | plain {cs : List Char} (h : ¬ opening <:+: cs) : Closed cs
  /-- The first placeholder is closed, and so are those that follow it. -/
  | placeholder {cs before rest inner behind : List Char}
    (hcut : cutAt? opening cs = some (before, rest))
    (hclose : closeAt? false rest = some (inner, behind)) (h : Closed behind) : Closed cs

/-- A text that does not end inside of an opening mark or an escaped arrow. -/
structure EndsWhole (cs : List Char) : Prop where
  /-- No opening mark has begun. -/
  mark : ¬ ['@'] <:+ cs
  /-- No escaped arrow has begun. -/
  backslash : ¬ ['\\'] <:+ cs
  /-- No escaped arrow lacks its tip only. -/
  dash : ¬ ['\\', '-'] <:+ cs

/-- The end of a text ends as the text does. -/
theorem EndsWhole.of_suffix {cs ds : List Char} (h : EndsWhole cs) (hds : ds <:+ cs) :
    EndsWhole ds where
  mark := fun he => h.mark (he.trans hds)
  backslash := fun he => h.backslash (he.trans hds)
  dash := fun he => h.dash (he.trans hds)

variable (resolve : Resolver)

/-- The text that a list of characters, read as a template, renders to. -/
def renderChars (cs : List Char) : String :=
  renderAll resolve (readSegments [] cs)

/-- A text without an opening mark renders to itself, but for its escaped arrows. -/
theorem renderChars_of_plain {cs : List Char} (h : ¬ opening <:+: cs) :
    renderChars resolve cs = String.ofList (unescapeArrows cs) := by
  rw [renderChars, readSegments_of_plain h, renderAll_textSegment]

/-- A text whose first placeholder is not closed renders to itself, but for its escaped arrows. -/
theorem renderChars_of_unclosed {cs before rest : List Char}
    (hcut : cutAt? opening cs = some (before, rest)) (hclose : closeAt? false rest = none) :
    renderChars resolve cs = String.ofList (unescapeArrows cs) := by
  rw [renderChars, readSegments_of_unclosed hcut hclose, renderAll_textSegment]

/-- A text renders up to the end of its first placeholder, and then what follows. -/
theorem renderChars_of_closed {cs before rest inner behind : List Char}
    (hcut : cutAt? opening cs = some (before, rest))
    (hclose : closeAt? false rest = some (inner, behind)) :
    renderChars resolve cs =
      String.ofList (unescapeArrows before) ++
        (renderSegment resolve (.placeholder (readAlternatives inner)) ++
          renderChars resolve behind) := by
  rw [renderChars, readSegments_of_closed hcut hclose, renderAll_append, renderAll_textSegment]
  rfl

/-- A text without an opening mark renders by itself before any other one. -/
theorem renderChars_append_of_plain {cs : List Char} (h : ¬ opening <:+: cs)
    (hend : EndsWhole cs) (ds : List Char) :
    renderChars resolve (cs ++ ds) = renderChars resolve cs ++ renderChars resolve ds := by
  have happend : cutAt? opening (cs ++ ds) = (cutAt? opening ds).map (Prod.map (cs ++ ·) id) :=
    cutAt?_pair_append (by decide) h hend.mark ds
  have hunescape := unescapeArrows_append hend.backslash hend.dash
  rw [renderChars_of_plain resolve h]
  cases hds : cutAt? opening ds with
  | none =>
    have hcut : cutAt? opening (cs ++ ds) = none := by rw [happend, hds, Option.map_none]
    rw [renderChars_of_plain resolve (cutAt?_eq_none_iff.1 hcut),
      renderChars_of_plain resolve (cutAt?_eq_none_iff.1 hds), hunescape, String.ofList_append]
  | some found =>
    obtain ⟨before, rest⟩ := found
    have hcut : cutAt? opening (cs ++ ds) = some (cs ++ before, rest) := by
      rw [happend, hds]
      rfl
    cases hclose : closeAt? false rest with
    | none =>
      rw [renderChars_of_unclosed resolve hcut hclose, renderChars_of_unclosed resolve hds hclose,
        hunescape, String.ofList_append]
    | some closed =>
      rw [renderChars_of_closed resolve hcut hclose, renderChars_of_closed resolve hds hclose,
        hunescape, String.ofList_append, String.append_assoc]

/-- A text with closed placeholders renders by itself before any other one. -/
theorem renderChars_append {cs : List Char} (hclosed : Closed cs) (hend : EndsWhole cs)
    (ds : List Char) :
    renderChars resolve (cs ++ ds) = renderChars resolve cs ++ renderChars resolve ds := by
  induction hclosed with
  | plain h => exact renderChars_append_of_plain resolve h hend ds
  | @placeholder cs before rest inner behind hcut hclose _ ih =>
    have hrest : rest <:+ cs := ⟨_, (eq_of_cutAt? hcut).symm⟩
    have hbehind : behind <:+ rest :=
      (List.suffix_cons _ _).trans ⟨_, (eq_of_closeAt? hclose).symm⟩
    rw [renderChars_of_closed resolve (cutAt?_pair_append_of_eq_some (by decide) hcut ds)
      (closeAt?_append_of_eq_some hclose ds), ih (hend.of_suffix (hbehind.trans hrest)),
      renderChars_of_closed resolve hcut hclose, String.append_assoc, String.append_assoc]

/-- Where every placeholder of a template is closed and it does not end inside of an opening mark or
an escaped arrow, it renders before any other text to what both render to. -/
theorem render_append {first : String} (hclosed : Closed first.toList)
    (hend : EndsWhole first.toList) (second : String) :
    (Template.mk (first ++ second)).render resolve =
      (Template.mk first).render resolve ++ (Template.mk second).render resolve := by
  rw [render_eq, String.toList_append]
  exact renderChars_append resolve hclosed hend second.toList

/-- A placeholder with a quoted brace, and a text that ends where an arrow starts. -/
def dashed : String :=
  "\\->@\x7b'\x7d'|n\x7d-"

/-- A tip behind this text completes an arrow that was not escaped, and the mark behind it, which is
not closed, stays. -/
theorem render_append_dashed :
    Closed dashed.toList ∧ EndsWhole dashed.toList ∧
      (Template.mk (dashed ++ ">@\x7bn")).render (fun _ _ => none) =
        (Template.mk dashed).render (fun _ _ => none) ++
          (Template.mk ">@\x7bn").render (fun _ _ => none) ∧
      (Template.mk (dashed ++ ">@\x7bn")).render (fun _ _ => none) = "->\x7d->@\x7bn" := by
  have hcut : cutAt? opening dashed.toList =
      some ("\\->".toList, "'\x7d'|n\x7d-".toList) := by decide +kernel
  have hclose : closeAt? false "'\x7d'|n\x7d-".toList = some ("'\x7d'|n".toList, ['-']) := by
    decide +kernel
  have hclosed : Closed dashed.toList := .placeholder hcut hclose (.plain (by decide))
  have hend : EndsWhole dashed.toList :=
    ⟨by decide +kernel, by decide +kernel, by decide +kernel⟩
  exact ⟨hclosed, hend, render_append _ hclosed hend _, by decide +kernel⟩

end Template

end Playback
