import Playback.Text.Digits

/-!
# Run tables

A property of code points is a table of consecutive runs, each with a label. Written as text, a run
is its label and its length, and the runs follow each other from code point zero.
-/

namespace Playback.Unicode

open Playback.Text

/-- Consecutive runs of code points, each given by its first code point and its label. -/
structure RunTable where
  /-- The runs in ascending order of their first code points. -/
  runs : Array (Nat × String)

/-- A partly read run table: the runs so far and the label and length being read. -/
structure RunReading where
  /-- The runs that are complete. -/
  runs : Array (Nat × String)
  /-- The first code point of the run being read. -/
  start : Nat
  /-- The label of the run being read, last character first. -/
  label : List Char
  /-- The length of the run being read, once a digit of it has been seen. -/
  length? : Option Nat

/-- The reading after one more run is complete. -/
def RunReading.close (r : RunReading) : RunReading :=
  match r.length? with
  | none => r
  | some n => ⟨r.runs.push (r.start, String.ofList r.label.reverse), r.start + n, [], none⟩

/-- The reading after one more character. Space and line ends do not count. -/
def RunReading.push (r : RunReading) (c : Char) : RunReading :=
  if c.isWhitespace then r
  else if isDigit c then
    { r with length? := some (r.length?.getD 0 * 10 + (c.toNat - 48)) }
  else
    let r := r.close
    { r with label := c :: r.label }

/-- The run table that a text writes. -/
def RunTable.ofText (s : String) : RunTable :=
  ⟨(s.toList.foldl RunReading.push ⟨#[], 0, [], none⟩).close.runs⟩

/-- The label of the last run between two indexes that starts at or before a code point. -/
def RunTable.search (t : RunTable) (n low high : Nat) : String :=
  if high ≤ low + 1 then (t.runs[low]?.map (·.2)).getD ""
  else
    let middle := (low + high) / 2
    match t.runs[middle]? with
    | some (start, _) => if start ≤ n then t.search n middle high else t.search n low middle
    | none => ""
termination_by high - low

/-- The label of the run that holds a character. -/
def RunTable.labelOf (t : RunTable) (c : Char) : String :=
  t.search c.toNat 0 t.runs.size

/-- The number of runs with one of the given labels. -/
def RunTable.countOf (t : RunTable) (labels : List String) : Nat :=
  (t.runs.filter fun run => labels.contains run.2).size

/-- The labels of a table, each once. -/
def RunTable.labels (t : RunTable) : List String :=
  (t.runs.toList.map (·.2)).eraseDups

end Playback.Unicode
