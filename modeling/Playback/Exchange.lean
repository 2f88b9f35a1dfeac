import Playback.Headers

/-!
# Exchanges

The recorded request and the response that is about to be replayed.
-/

namespace Playback

/-- A recorded request. -/
structure Request where
  /-- The method. -/
  method : String
  /-- The path. -/
  path : String
  /-- The headers. -/
  headers : Headers
  /-- The body. -/
  body : String

/-- A response, of which commands may change the headers and the body. -/
structure Response where
  /-- The status. -/
  status : Nat
  /-- The headers. -/
  headers : Headers
  /-- The body. -/
  body : String

/-- The request of which nothing was recorded. -/
def Request.empty : Request :=
  ⟨"", "", .empty, ""⟩

/-- The response of which nothing was recorded: its status is 200. -/
def Response.empty : Response :=
  ⟨200, .empty, ""⟩

end Playback
