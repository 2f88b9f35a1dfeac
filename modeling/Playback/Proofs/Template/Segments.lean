import Playback.Proofs.Template.Escaping

/-!
# Segments of templates

The segments of a text are read one placeholder after the other: the text before the first opening
mark, the placeholder up to its closing brace, and the segments of what follows. A text without an
opening mark is one segment, and so is all that follows a mark that is not closed.
-/

namespace Playback.Template

open Text

/-- The mark that opens a placeholder. -/
def opening : List Char :=
  ['@', '{']

/-- The segments of a text, behind characters that belong to its first segment. -/
theorem readSegments_eq_of_before (before cs : List Char) :
    readSegments before cs =
      match cutAt? opening cs with
      | none => textSegment (before.reverse ++ cs)
      | some (front, rest) =>
        match closeAt? false rest with
        | none => textSegment (before.reverse ++ cs)
        | some (inner, behind) =>
          textSegment (before.reverse ++ front) ++ .placeholder (readAlternatives inner) ::
            readSegments [] behind := by
  induction cs generalizing before with
  | nil => simp [readSegments, cutAt?, opening]
  | cons c cs ih =>
    rw [cutAt?]
    cases hp : afterPrefix? opening (c :: cs) with
    | some rest =>
      have hcs : c :: cs = '@' :: '{' :: rest := afterPrefix?_eq_some_iff.1 hp
      rw [hcs, readSegments]
      split <;> rename_i hclose <;> simp [hclose]
    | none =>
      rw [readSegments, ih]
      · cases cutAt? opening cs with
        | none => simp
        | some found =>
          simp only [Option.map_some, List.reverse_cons, List.append_assoc, List.singleton_append]
      · rintro rest rfl rfl
        exact afterPrefix?_eq_none_iff.1 hp ⟨rest, rfl⟩

/-- A text without an opening mark is one segment. -/
theorem readSegments_of_plain {cs : List Char} (h : ¬ opening <:+: cs) :
    readSegments [] cs = textSegment cs := by
  rw [readSegments_eq_of_before, cutAt?_eq_none_iff.2 h]
  rfl

/-- The segments of a text whose first placeholder is closed. -/
theorem readSegments_of_closed {cs before rest inner behind : List Char}
    (hcut : cutAt? opening cs = some (before, rest))
    (hclose : closeAt? false rest = some (inner, behind)) :
    readSegments [] cs =
      textSegment before ++ .placeholder (readAlternatives inner) :: readSegments [] behind := by
  rw [readSegments_eq_of_before, hcut]
  dsimp only
  rw [hclose]
  rfl

/-- A text whose first placeholder is not closed is one segment. -/
theorem readSegments_of_unclosed {cs before rest : List Char}
    (hcut : cutAt? opening cs = some (before, rest)) (hclose : closeAt? false rest = none) :
    readSegments [] cs = textSegment cs := by
  rw [readSegments_eq_of_before, hcut]
  dsimp only
  rw [hclose]
  rfl

/-! ## Rendering -/

/-- The text that segments render to. -/
def renderAll (resolve : Resolver) (segments : List Segment) : String :=
  segments.foldr (fun segment rest => renderSegment resolve segment ++ rest) ""

/-- The text that a template renders to is that of its segments. -/
theorem render_eq (t : Template) (resolve : Resolver) :
    t.render resolve = renderAll resolve (readSegments [] t.text.toList) := rfl

/-- Segments render one list behind the other. -/
theorem renderAll_append (resolve : Resolver) (first second : List Segment) :
    renderAll resolve (first ++ second) = renderAll resolve first ++ renderAll resolve second := by
  induction first with
  | nil => exact (String.empty_append).symm
  | cons segment first ih =>
    have hcons (segments : List Segment) : renderAll resolve (segment :: segments) =
        renderSegment resolve segment ++ renderAll resolve segments := rfl
    rw [List.cons_append, hcons, ih, hcons, String.append_assoc]

/-- Text outside of placeholders renders to itself, but for its escaped arrows. -/
theorem renderAll_textSegment (resolve : Resolver) (cs : List Char) :
    renderAll resolve (textSegment cs) = String.ofList (unescapeArrows cs) := by
  cases cs with
  | nil => rfl
  | cons c cs => exact String.append_empty

end Playback.Template
