import Playback.Text.Cut
import Playback.Unicode.Age
import Playback.Unicode.Category
import Playback.Unicode.GraphemeBreak
import Playback.Unicode.Script
import Playback.Unicode.ScriptExtension
import Playback.Unicode.SentenceBreak
import Playback.Unicode.WordBreak

/-!
# Valued properties

The properties that have one of several values for each character. A name of a value stands for the
labels in the table of the property that it covers.
-/

namespace Playback.Unicode

open Playback.Text

/-- A property with several values. -/
inductive ValuedProperty where
  /-- The general category. -/
  | category
  /-- The script. -/
  | script
  /-- The scripts that a character is used in. -/
  | scriptExtensions
  /-- The version in which a character first appeared. -/
  | age
  /-- The behaviour at boundaries of signs that a reader sees as one. -/
  | graphemeBreak
  /-- The behaviour at boundaries of sentences. -/
  | sentenceBreak
  /-- The behaviour at boundaries of words. -/
  | wordBreak
  deriving DecidableEq, Repr

namespace ValuedProperty

/-- All properties with the forms of their names, in lower case and without separators. -/
def names : List (ValuedProperty × List String) := [
  (.category, ["generalcategory", "gc"]),
  (.script, ["script", "sc"]),
  (.scriptExtensions, ["scriptextensions", "scx"]),
  (.age, ["age"]),
  (.graphemeBreak, ["graphemeclusterbreak", "gcb"]),
  (.sentenceBreak, ["sentencebreak", "sb"]),
  (.wordBreak, ["wordbreak", "wb"])]

/-- The property that a name in normal form stands for. -/
def named? (name : String) : Option ValuedProperty :=
  (names.find? fun (_, forms) => forms.contains name).map (·.1)

/-- The runs of characters with the same value. -/
def table : ValuedProperty → RunTable
  | .category => categoryTable
  | .script => scriptTable
  | .scriptExtensions => scriptExtensionTable
  | .age => ageTable
  | .graphemeBreak => graphemeBreakTable
  | .sentenceBreak => sentenceBreakTable
  | .wordBreak => wordBreakTable

/-- The labels of characters that are used in a script. -/
def labelsUsedIn (script : String) : List String :=
  scriptExtensionTable.labels.filter fun label => occursIn script.toList label.toList

/-- The label that a name in normal form stands for in a list of labels with names. -/
def labelNamed? (labels : List (String × List String)) (name : String) : Option (List String) :=
  (labels.find? fun (_, forms) => forms.contains name).map fun (label, _) => [label]

/-- The labels that the name of a value covers. Ages cover all that is not younger. -/
def labels? (p : ValuedProperty) (name : String) : Option (List String) :=
  match p with
  | .category => categoriesNamed? name
  | .script => labelNamed? scriptNames name
  | .scriptExtensions => (scriptNamed? name).map labelsUsedIn
  | .age => agesNamed? name
  | .graphemeBreak => labelNamed? graphemeBreakNames name
  | .sentenceBreak => labelNamed? sentenceBreakNames name
  | .wordBreak => labelNamed? wordBreakNames name

/-- Whether a character has one of the values with given labels. -/
def holds (p : ValuedProperty) (labels : List String) (c : Char) : Bool :=
  labels.contains (p.table.labelOf c)

end ValuedProperty

end Playback.Unicode
