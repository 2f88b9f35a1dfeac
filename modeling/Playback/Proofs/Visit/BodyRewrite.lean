import Playback.Proofs.Pattern.Cutting
import Playback.Proofs.Visit.Effect

/-!
# Rewriting the body of the response

A rewrite of the body replaces what its source has captured: each match is replaced by the template,
rendered with the groups of this match, and the text around the matches stays. Without a pattern the
body is replaced as a whole.
-/

namespace Playback

/-- A source that is a body captures a value for each piece into which its pattern cuts the body. -/
theorem Visit.captured_find_body (v : Visit) (side : Side) (pattern : Pattern) :
    (v.find (.body side (some pattern))).captured =
      (pattern.cut (v.body side)).pieces.map (·.found.first) :=
  List.map_map

/-- What a visit is when the body of its response has been rewritten. -/
structure Visit.BodyRewritten (v w : Visit) (pattern : Option Pattern) (template : Template) :
    Prop where
  /-- The pattern cuts the body at the matches whose values its source captures, and the new body
  has the same gaps with the template in place of the matches. A group that took no part in its
  match is the empty text. -/
  replaced : ∀ p ∈ pattern, ∃ cutting, p.CutsInto v.response.body cutting ∧
    (v.find (.body .response pattern)).captured = cutting.pieces.map (·.found.first) ∧
    v.response.body = cutting.join (·.whole) ∧
    w.response.body = cutting.join fun found =>
      template.renderIn v.store (found.whole :: found.groups.map (·.getD ""))
  /-- A body in which the pattern does not match stays as it is. -/
  unmatched : ∀ p ∈ pattern, (v.find (.body .response pattern)).matched = false →
    w.response.body = v.response.body
  /-- Without a pattern the template is rendered with the body as the whole match. -/
  whole : pattern = none → w.response.body = template.renderIn v.store [v.response.body]
  /-- Nothing else has changed. -/
  others : w = { v with response := { v.response with body := w.response.body } }

/-- A replacement of the response body whose gate passes rewrites exactly the matches of its source,
each by the template with its own groups. -/
theorem Visit.bodyRewritten_execute {v : Visit} {c : Command} {pattern : Option Pattern}
    {template : Template} (hsource : c.source = .body .response pattern)
    (haction : c.action = some (.replace template))
    (hpassed : c.passes (v.find c.source).matched = true) :
    (v.execute c).2 = .applied true ∧ v.BodyRewritten (v.execute c).1 pattern template := by
  rw [execute_of_passes haction hpassed, hsource]
  refine ⟨rfl, ?_⟩
  cases pattern with
  | none =>
    constructor
    case replaced => exact fun _ hp => nomatch hp
    case unmatched => exact fun _ hp => nomatch hp
    case whole => exact fun _ => rfl
    case others => rfl
  | some p =>
    let cutting := p.cut v.response.body
    have hcut : p.CutsInto v.response.body cutting := p.cutsInto_cut v.response.body
    have hcaptured : (v.find (.body .response (some p))).captured =
        cutting.pieces.map (·.found.first) := v.captured_find_body .response p
    have hold : v.response.body = cutting.join (·.whole) := by
      rw [hcut.join_eq, String.ofList_toList]
    have hnew : p.replaceAll v.response.body (fun found => template.renderIn v.store found.values) =
        cutting.join fun found => template.renderIn v.store found.values := p.replaceAll_eq _ _
    constructor
    case replaced =>
      intro q hq
      cases hq
      exact ⟨cutting, hcut, hcaptured, hold, hnew⟩
    case unmatched =>
      intro q hq hmiss
      have hnone : cutting.pieces = [] := by
        rw [Finding.matched_eq_false_iff, hcaptured] at hmiss
        exact List.map_eq_nil_iff.1 hmiss
      exact hnew.trans ((Pattern.Cutting.join_of_pieces_eq_nil hnone _ _).trans hold.symm)
    case whole => exact fun hnone => nomatch hnone
    case others => rfl

/-- A pattern that matches a letter or nothing. -/
def Pattern.maybeB : Pattern where
  text := "(b)?"
  tree := .loop (.group 1 (.chars (.single 'b'))) 0 (some 1) true
  tree_eq := rfl

/-- A visit whose response has a body of two letters. -/
def Visit.twoLetters : Visit :=
  ⟨.empty, ⟨200, .empty, "éb"⟩, .empty, 0⟩

/-- A command that marks each match in the body, and each group. -/
def Command.markMatches : Command :=
  ⟨none, .body .response (some Pattern.maybeB), some (.replace ⟨"<@\x7b0\x7d,@\x7b1\x7d>"⟩)⟩

/-- The empty match at the start is marked, and none is marked behind the last letter, where a match
has ended. -/
theorem Visit.bodyRewritten_twoLetters :
    Visit.twoLetters.BodyRewritten (Visit.twoLetters.execute Command.markMatches).1
        (some Pattern.maybeB) ⟨"<@\x7b0\x7d,@\x7b1\x7d>"⟩ ∧
      (Visit.twoLetters.execute Command.markMatches).1.response.body = "<,>é<b,b>" := by
  have hpassed : Command.markMatches.passes
      (Visit.twoLetters.find Command.markMatches.source).matched = true := by decide +kernel
  exact ⟨(bodyRewritten_execute rfl rfl hpassed).2, by decide +kernel⟩

end Playback
