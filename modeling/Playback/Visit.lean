import Playback.Command.Basic
import Playback.Exchange
import Playback.Finding
import Playback.Text.Blank

/-!
# Visits

A visit replays one exchange. Commands run against it one after the other: a command reads its
source, its gate decides, and its action writes. No command fails: where data are missing it writes
an empty text or `false`, or nothing.
-/

namespace Playback

open Text

/-- The text of a truth value. -/
def boolText (b : Bool) : String :=
  if b then "true" else "false"

/-- How a command ended. -/
inductive Outcome where
  /-- The gate failed, and the command needs it. -/
  | skipped
  /-- The gate passed, and there is no action. -/
  | checked
  /-- The action ran with this result of the gate. -/
  | applied (passed : Bool)
  deriving DecidableEq, Repr

/-- All that the commands of a visit read or change. -/
structure Visit where
  /-- The recorded request. -/
  request : Request
  /-- The response that is replayed. -/
  response : Response
  /-- The variables, and the use counts of chapters by name. -/
  store : Store
  /-- The use count of the visited chapter. -/
  uses : Int

/-! ## Reading -/

/-- The headers of one side. -/
def Visit.headers (v : Visit) : Side → Headers
  | .request => v.request.headers
  | .response => v.response.headers

/-- The body of one side. -/
def Visit.body (v : Visit) : Side → String
  | .request => v.request.body
  | .response => v.response.body

/-- The use count of the visited chapter or of a named one. -/
def Visit.usesOf? (v : Visit) : Option String → Option Int
  | some chapter => v.store.usesOf? chapter
  | none => some v.uses

/-- Whether a condition that may be missing holds of a count. -/
def countAllowed (condition : Option CountExpr) (count : Int) : Bool :=
  condition.all (·.holds count)

/-- What a source yields in a visit. -/
def Visit.find (v : Visit) : Source → Finding
  | .head side (some key) pattern =>
    match (v.headers side).getAll? key with
    | some values => .inValues pattern values
    | none => .miss
  | .head side none pattern => .inValues pattern (v.headers side).allValues
  | .body side pattern => .inText pattern (v.body side)
  | .variable scope up (some name) pattern =>
    match v.store.lookup scope name up, pattern with
    | some (_, value), some pattern => .ofMatches (pattern.findAll value)
    | some (_, value), none => ⟨[value], []⟩
    | none, _ => .miss
  | .variable scope _ none pattern => .inValues pattern (v.store.values scope)
  | .uses chapter condition =>
    match (v.usesOf? chapter).filter (countAllowed condition) with
    | some count => ⟨[intText count], []⟩
    | none => .miss

/-! ## Writing -/

/-- The variables that a spread writes for captured values. -/
def Spread.entries (name : String) (captured : List String) : Spread → List (String × String)
  | .none => []
  | .all => captured.zipIdx.map fun (value, i) => (name ++ "_" ++ natText i, value)
  | .last => (captured.getLast?.map fun value => (name ++ "_?", value)).toList
  | .index n => (captured[n]?.map fun value => (name ++ "_#" ++ natText n, value)).toList

/-- The variables that an extraction writes, in order. -/
def Target.entries (target : Target) (found : Finding) (passed : Bool) : List (String × String) :=
  let value := if passed then found.first?.getD (boolText passed) else boolText passed
  let told : List (Bool × String × String) := [
    (true, target.name, value),
    (target.tellMatched, target.name ++ "?", boolText found.matched),
    (target.tellCount, target.name ++ "#", natText found.captured.length),
    (target.tellPassed, target.name ++ "@", boolText passed)]
  (told.filter (·.1)).map (·.2) ++
    if passed then target.spread.entries target.name found.captured else []

/-- The store with values for several variables of a scope. -/
def Store.setAll (s : Store) (scope : Scope) (entries : List (String × String)) : Store :=
  entries.foldl (fun s (name, value) => s.set scope name value) s

/-- The text that a template renders to, with the variables of a store and the groups of a match. -/
def Template.renderIn (template : Template) (s : Store) (groups : List String) : String :=
  template.render (s.resolver groups)

/-- A body with every match replaced, or without a pattern the replacement of the whole body. -/
def replaceBody (pattern : Option Pattern) (render : List String → String) (body : String) :
    String :=
  match pattern with
  | some pattern => pattern.replaceAll body fun found => render found.values
  | none => render [body]

/-- A header value as a whole replaced where the pattern matches in it. -/
def replaceValue (pattern : Option Pattern) (render : List String → String) (value : String) :
    String :=
  match pattern with
  | some pattern => ((pattern.find? value).map fun found => render found.values).getD value
  | none => render [value]

/-- The headers with the values of one header, or of all, replaced where the pattern matches. -/
def replaceHeaders (key : Option String) (pattern : Option Pattern)
    (render : List String → String) (headers : Headers) : Headers :=
  let replaceAll := List.map (replaceValue pattern render)
  match key with
  | some key => headers.update key replaceAll
  | none => headers.mapValues replaceAll

namespace Visit

/-- The visit with a use count for the visited chapter or a named one. -/
def setUses (v : Visit) (chapter : Option String) (uses : Int) : Visit :=
  match chapter with
  | some chapter => { v with store := v.store.setUses chapter uses }
  | none => { v with uses }

/-- The visit after what a source matched has been replaced by a template. A use count is replaced
by a number that its condition allows, and by nothing else. -/
def replace (v : Visit) (source : Source) (template : Template) (found : Finding) : Visit :=
  let render := template.renderIn v.store
  match source with
  | .body .response pattern =>
    { v with response := { v.response with body := replaceBody pattern render v.response.body } }
  | .head .response key pattern =>
    { v with response :=
      { v.response with headers := replaceHeaders key pattern render v.response.headers } }
  | .variable scope _ (some name) _ =>
    { v with store := v.store.set scope name (render found.groups) }
  | .uses chapter condition =>
    match (countOf? (trimChars (render found.groups).toList)).filter (countAllowed condition) with
    | some uses => v.setUses chapter uses
    | none => v
  | .head .request _ _ | .body .request _ | .variable _ _ none _ => v

/-- The visit after a replacement whose gate has failed: a variable records the failure. -/
def recordFailure (v : Visit) : Source → Visit
  | .variable scope _ (some name) _ => { v with store := v.store.set scope name (boolText false) }
  | _ => v

/-- The visit after an action. -/
def act (v : Visit) (source : Source) (action : Action) (found : Finding) (passed : Bool) :
    Visit :=
  match action with
  | .extract target =>
    { v with store := v.store.setAll target.scope (target.entries found passed) }
  | .replace template =>
    if passed then v.replace source template found else v.recordFailure source

/-- Run a command. -/
def execute (v : Visit) (command : Command) : Visit × Outcome :=
  let found := v.find command.source
  let passed := command.passes found.matched
  if !passed && !command.isOptional then (v, .skipped)
  else
    match command.action with
    | none => (v, .checked)
    | some action => (v.act command.source action found passed, .applied passed)

/-- Run commands in order. -/
def executeAll (v : Visit) : List Command → Visit × List Outcome
  | [] => (v, [])
  | command :: commands =>
    let (v, outcome) := v.execute command
    let (v, outcomes) := v.executeAll commands
    (v, outcome :: outcomes)

/-- Run the commands of a sequence, then drop its local variables. -/
def run (v : Visit) (commands : List Command) : Visit × List Outcome :=
  let (v, outcomes) := v.executeAll commands
  ({ v with store := v.store.clearLocal }, outcomes)

end Visit

end Playback
