import Playback.Main
import Playback.Proofs.Chapter.Isolation
import Playback.Proofs.Command.RoundTrip
import Playback.Proofs.Visit.WriteSet
import Playback.Proofs.Chapter.Run
import Playback.Session
import Playback.Proofs.Chapter.Uses
import Playback.Proofs.Session.Steps
import Playback.Proofs.Session.InStep
import Playback.Proofs.Session.VisitCount
import Playback.Proofs.Chapter.Locals
import Playback.Proofs.Command.Judging
import Playback.Proofs.Endpoint.Agreement
import Playback.Proofs.Chapter.ResponseShape
import Playback.Proofs.Visit.Extraction
import Playback.Proofs.Fixture.Counts
import Playback.Proofs.Fixture.Range
import Playback.Proofs.Pattern.Cutting
import Playback.Proofs.Visit.BodyRewrite
import Playback.Proofs.Visit.HeaderRewrite
import Playback.Proofs.Text.Blank
import Playback.Proofs.Visit.CountRewrite
import Playback.Proofs.Visit.FailedGate
import Playback.Proofs.Template.Escaping
import Playback.Proofs.Template.Segments
import Playback.Proofs.Visit.LiteralBody
import Playback.Proofs.Template.Joining
import Playback.Proofs.Template.ReadBack
import Playback.Proofs.Template.Resolution
import Playback.Proofs.Count.Reading
import Playback.Proofs.Command.Refusal
import Playback.Proofs.Chapter.Bookkeeping
import Playback.Proofs.Visit.Course
import Playback.Proofs.Headers.Multimap
import Playback.Proofs.Pattern.Matches
import Playback.Proofs.Visit.Outcomes
import Playback.Proofs.Visit.HeadReading
import Playback.Proofs.Visit.ReadingBack
import Playback.Proofs.Visit.Coherence
import Playback.Proofs.Command.Tiling
import Playback.Proofs.Command.Ends
import Playback.Proofs.Json.ReadBack
import Playback.Proofs.Endpoint.Routing
import Playback.Proofs.Endpoint.Piping
import Playback.Proofs.Endpoint.Printed
import Playback.Proofs.Endpoint.Exit
