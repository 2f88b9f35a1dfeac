import Playback.Store
import Playback.Text.Cut
import Playback.Text.Digits

/-!
# Templates

A template is a text with placeholders such as `@{name}`, `@{&name|'else'}` or `@{1}`. A placeholder
lists alternatives, of which the first with a value that is not empty is taken. Outside of
placeholders, and in quotes, `\->` stands for `->`.
-/

namespace Playback

open Text

/-- One way to fill a placeholder. -/
inductive Alternative where
  /-- The text itself. -/
  | literal (text : String)
  /-- The value of a name: in one scope, or wherever names are looked for. -/
  | lookup (scope : Option Scope) (name : String)
  deriving DecidableEq, Repr

/-- A part of a template. -/
inductive Segment where
  /-- Text that is copied. -/
  | text (text : String)
  /-- A place that is filled by the first alternative with a value. -/
  | placeholder (alternatives : List Alternative)
  deriving DecidableEq, Repr

/-- Where the values of names come from. -/
abbrev Resolver := Option Scope → String → Option String

/-- The value of an alternative, if it is not empty. -/
def Alternative.value? (resolve : Resolver) (alternative : Alternative) : Option String :=
  let value? :=
    match alternative with
    | .literal text => some text
    | .lookup scope name => resolve scope name
  value?.filter (!·.isEmpty)

/-- A template, given by its text. -/
structure Template where
  /-- The text. -/
  text : String
  deriving DecidableEq, Repr

namespace Template

/-- The text with `->` for every `\->`. -/
def unescapeArrows : List Char → List Char
  | '\\' :: '-' :: '>' :: rest => '-' :: '>' :: unescapeArrows rest
  | c :: rest => c :: unescapeArrows rest
  | [] => []

/-- The text before and after the first closing brace outside of quotes. -/
def closeAt? (quoted : Bool) : List Char → Option (List Char × List Char)
  | [] => none
  | c :: rest =>
    if c = '}' ∧ quoted = false then some ([], rest)
    else
      (closeAt? (quoted != (c == '\'')) rest).map fun (inner, behind) => (c :: inner, behind)

/-- What follows a closing brace is shorter than the text. -/
theorem length_of_closeAt? {quoted : Bool} {cs inner behind : List Char}
    (h : closeAt? quoted cs = some (inner, behind)) : behind.length < cs.length := by
  induction cs generalizing quoted inner with
  | nil => simp [closeAt?] at h
  | cons c rest ih =>
    simp only [closeAt?] at h
    split at h
    · simp only [Option.some.injEq, Prod.mk.injEq] at h
      simp [← h.2]
    · obtain ⟨⟨i, b⟩, hr, he⟩ := Option.map_eq_some_iff.1 h
      simp only [Prod.mk.injEq] at he
      have := ih (he.2 ▸ hr)
      simp only [List.length_cons]
      omega

/-- The parts of a placeholder between the bars outside of quotes. -/
def splitBars (quoted : Bool) : List Char → List (List Char)
  | [] => [[]]
  | c :: rest =>
    if c = '|' ∧ quoted = false then [] :: splitBars quoted rest
    else
      match splitBars (quoted != (c == '\'')) rest with
      | [] => [[c]]
      | part :: parts => (c :: part) :: parts

/-- The text between a quote at the start and another one at the end. -/
def unquote? : List Char → Option (List Char)
  | '\'' :: rest => if rest.getLast? = some '\'' then some rest.dropLast else none
  | _ => none

/-- The alternative that a part of a placeholder writes. -/
def readAlternative (part : List Char) : Alternative :=
  match unquote? part with
  | some inner => .literal (String.ofList (unescapeArrows inner))
  | none =>
    match part with
    | '&' :: name => .lookup (some .chapter) (String.ofList name)
    | '%' :: name => .lookup (some .testBounds) (String.ofList name)
    | name => .lookup none (String.ofList name)

/-- The alternatives that the inside of a placeholder writes; empty parts are left out. -/
def readAlternatives (inner : List Char) : List Alternative :=
  ((splitBars false inner).filter (!·.isEmpty)).map readAlternative

/-- The segment for a text between placeholders, if it has characters. -/
def textSegment (cs : List Char) : List Segment :=
  if cs.isEmpty then [] else [.text (String.ofList (unescapeArrows cs))]

/-- The segments of a text, given the characters before it that belong to its first segment, the
last one first. A placeholder that is not closed is text, as is all that follows it. -/
def readSegments (before : List Char) : List Char → List Segment
  | [] => textSegment before.reverse
  | '@' :: '{' :: rest =>
    match _h : closeAt? false rest with
    | none => textSegment (before.reverse ++ '@' :: '{' :: rest)
    | some (inner, behind) =>
      textSegment before.reverse ++ .placeholder (readAlternatives inner) ::
        readSegments [] behind
  | c :: rest => readSegments (c :: before) rest
termination_by cs => cs.length
decreasing_by
  · have := length_of_closeAt? _h
    simp only [List.length_cons]
    omega
  · simp

/-- The segments of a template. -/
def segments (t : Template) : List Segment :=
  readSegments [] t.text.toList

/-- The text that a segment renders to. -/
def renderSegment (resolve : Resolver) : Segment → String
  | .text text => text
  | .placeholder alternatives => (alternatives.findSome? (·.value? resolve)).getD ""

/-- The text that a template renders to. -/
def render (t : Template) (resolve : Resolver) : String :=
  t.segments.foldr (fun segment rest => renderSegment resolve segment ++ rest) ""

end Template

/-- The value of a name for a placeholder. In a scope it is the variable there. Elsewhere it is the
capture group with that number, or else the first variable from the innermost scope outward; empty
texts count as absent. -/
def Store.resolver (s : Store) (groups : List String) : Resolver := fun scope name =>
  match scope with
  | some scope => s.get? scope name
  | none =>
    let group? := (natBelow? (Nat.pow 2 64) name.toList).bind (groups[·]?)
    group?.filter (!·.isEmpty) <|> s.resolve name

end Playback
