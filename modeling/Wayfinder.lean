import Wayfinder.Config.Basic
import Wayfinder.Context.Cancellation
import Wayfinder.Context.Values
import Wayfinder.Demo
import Wayfinder.Dispatcher
import Wayfinder.Http.ContentType
import Wayfinder.Http.Cookie
import Wayfinder.Http.Status
import Wayfinder.Http.Uri
import Wayfinder.Json.Printer
import Wayfinder.Json.Reader
import Wayfinder.Log.Logger
import Wayfinder.Log.Pipeline
import Wayfinder.Main
import Wayfinder.Metrics.Page
import Wayfinder.Number.Decimal
import Wayfinder.Proofs.Route.Captures
import Wayfinder.Proofs.Route.Extension
import Wayfinder.Proofs.Route.FiniteMap
import Wayfinder.Proofs.Route.Precedence
import Wayfinder.Proofs.Route.WholeSegment
import Wayfinder.Proofs.Stage.Assembly
import Wayfinder.Proofs.Stage.Nesting
import Wayfinder.Route.Router
import Wayfinder.Text.Form
import Wayfinder.Wire.Answer
import Wayfinder.Proofs.Route.Listing
import Wayfinder.Proofs.Stage.Coverage
import Wayfinder.Proofs.Stage.Effects
import Wayfinder.Proofs.Stage.Recovery
import Wayfinder.Proofs.Stage.Admission
import Wayfinder.Proofs.Route.Rearrangement
import Wayfinder.Proofs.Route.Join
import Wayfinder.Proofs.Route.Liveness
import Wayfinder.Proofs.Route.Enclosure
import Wayfinder.Proofs.Route.Spelling
import Wayfinder.Proofs.Stage.Grouping
import Wayfinder.Proofs.Http.Fields
import Wayfinder.Proofs.Stage.Actors
import Wayfinder.Proofs.Stage.Lines
import Wayfinder.Proofs.Stage.Identification
import Wayfinder.Proofs.Stage.Fallback
import Wayfinder.Proofs.Log.Sampling
import Wayfinder.Proofs.Metrics.Tally
import Wayfinder.Proofs.Metrics.Passes
import Wayfinder.Proofs.Context.Cancellation
import Wayfinder.Proofs.Route.Canonical
import Wayfinder.Proofs.Route.Prefix
import Wayfinder.Proofs.Route.Splitting
import Wayfinder.Proofs.Stage.Calls
import Wayfinder.Proofs.Text.Trim
import Wayfinder.Proofs.Wire.HeaderLines
import Wayfinder.Proofs.Metrics.Exposition
import Wayfinder.Proofs.Http.Cookies
import Wayfinder.Proofs.Route.Nodes
import Wayfinder.Proofs.Stage.Deadlines
import Wayfinder.Proofs.Number.Numeral
import Wayfinder.Proofs.Config.Size
import Wayfinder.Proofs.Json.Strings
import Wayfinder.Proofs.RequestId
