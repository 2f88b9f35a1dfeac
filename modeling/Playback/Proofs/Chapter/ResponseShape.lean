import Playback.Proofs.Chapter.Run

/-!
# The shape of the response

Commands may change the body of a response and the texts of its header values. Its shape, which is
the status, the names of the headers as they are spelled and ordered, and the number of values of
each, stays as it was recorded, however often the response is handled and by whatever commands.
-/

namespace Playback

/-! ## Shapes -/

/-- The names of headers in order, each with the number of its values. -/
def Headers.shape (h : Headers) : List (String × Nat) :=
  h.entries.map fun e => (e.name, e.values.length)

/-- What a response has besides its body and the texts of its header values. -/
structure Response.Shape where
  /-- The status. -/
  status : Nat
  /-- The names of the headers in order, each with the number of its values. -/
  headers : List (String × Nat)
  deriving DecidableEq

/-- The shape of a response. -/
def Response.shape (r : Response) : Response.Shape :=
  ⟨r.status, r.headers.shape⟩

namespace Headers

/-- A change of the values of one header that keeps their number keeps the shape. -/
theorem shape_update (h : Headers) (name : String) {f : List String → List String}
    (hf : ∀ values, (f values).length = values.length) : (h.update name f).shape = h.shape := by
  simp only [shape, update, List.map_map]
  refine List.map_congr_left fun e _ => ?_
  rw [Function.comp_apply]
  split
  · rw [hf]
  · rfl

/-- A change of the values of all headers that keeps their numbers keeps the shape. -/
theorem shape_mapValues (h : Headers) {f : List String → List String}
    (hf : ∀ values, (f values).length = values.length) : (h.mapValues f).shape = h.shape := by
  simp only [shape, mapValues, List.map_map]
  refine List.map_congr_left fun e _ => ?_
  rw [Function.comp_apply, hf]

end Headers

/-- A replacement in headers keeps their shape, whether or not there is a header with the key and a
value in which the pattern matches. -/
theorem shape_replaceHeaders (key : Option String) (pattern : Option Pattern)
    (render : List String → String) (h : Headers) :
    (replaceHeaders key pattern render h).shape = h.shape := by
  have hlength (values : List String) :
      (values.map (replaceValue pattern render)).length = values.length := List.length_map _
  cases key with
  | none => exact h.shape_mapValues hlength
  | some key => exact h.shape_update key hlength

/-! ## Commands, sequences and replays -/

namespace Visit

/-- A command keeps the shape of the response. -/
theorem Effect.shape_eq {v w : Visit} {c : Command} (h : Effect v c w) :
    w.response.shape = v.response.shape := by
  cases h with
  | nothing => rfl
  | extract target passed haction => rfl
  | setVariable scope up name pattern value haction hsource => rfl
  | setUses chapter condition uses haction hsource hallowed => cases chapter <;> rfl
  | rewriteBody pattern render haction hsource => rfl
  | rewriteHeaders key pattern render haction hsource =>
    have hheaders := shape_replaceHeaders key pattern render v.response.headers
    simp only [Response.shape, hheaders]

/-- Commands keep the shape of the response. -/
theorem shape_executeAll (v : Visit) (commands : List Command) :
    (v.executeAll commands).1.response.shape = v.response.shape := by
  have hstep (c : Command) (_ : c ∈ commands) (w : Visit)
      (hw : w.response.shape = v.response.shape) :
      (w.execute c).1.response.shape = v.response.shape :=
    (w.effect_execute c).shape_eq.trans hw
  exact executeAll_induction (P := fun w => w.response.shape = v.response.shape) hstep rfl

/-- Sequences keep the shape of the response. -/
theorem shape_runAll (v : Visit) (sequences : List (Nat × Sequence)) :
    (v.runAll sequences).1.response.shape = v.response.shape := by
  induction sequences generalizing v with
  | nil => rfl
  | cons entry rest ih =>
    obtain ⟨place, commands⟩ := entry
    have hfirst : (v.run commands).1.response.shape = v.response.shape :=
      v.shape_executeAll commands
    rw [runAll_cons, ih, hfirst]

end Visit

namespace Response

/-- What may be done with a response, in a visit with any request, variables and counts. -/
inductive Handling where
  /-- Run a command. -/
  | command (request : Request) (store : Store) (uses : Int) (command : Command)
  /-- Run a sequence. -/
  | sequence (request : Request) (store : Store) (uses : Int) (commands : Sequence)
  /-- Replay a chapter. -/
  | replay (request : Request) (store : Store) (chapter : Chapter)

/-- The response after it has been handled. -/
def handle (r : Response) : Handling → Response
  | .command request store uses command =>
    ((⟨request, r, store, uses⟩ : Visit).execute command).1.response
  | .sequence request store uses commands =>
    ((⟨request, r, store, uses⟩ : Visit).run commands).1.response
  | .replay request store chapter => (chapter.replay request r store).response

/-- The response after it has been handled several times. -/
def handleAll (r : Response) (handlings : List Handling) : Response :=
  handlings.foldl handle r

/-- A response keeps its shape when it is handled. -/
theorem shape_handle (r : Response) (handling : Handling) :
    (r.handle handling).shape = r.shape := by
  cases handling with
  | command request store uses command =>
    exact ((⟨request, r, store, uses⟩ : Visit).effect_execute command).shape_eq
  | sequence request store uses commands =>
    exact (⟨request, r, store, uses⟩ : Visit).shape_executeAll commands
  | replay request store chapter =>
    exact (chapter.begin request r store).shape_runAll chapter.compiled

/-- A response keeps its shape however often and by whatever it is handled: its status, the names of
its headers with their spelling and order, and the number of values of each. -/
theorem shape_handleAll (r : Response) (handlings : List Handling) :
    (r.handleAll handlings).shape = r.shape := by
  induction handlings generalizing r with
  | nil => rfl
  | cons handling handlings ih =>
    have hfirst : (r.handle handling).shape = r.shape := r.shape_handle handling
    have hrest : ((r.handle handling).handleAll handlings).shape = (r.handle handling).shape :=
      ih (r.handle handling)
    exact hrest.trans hfirst

end Response

end Playback
