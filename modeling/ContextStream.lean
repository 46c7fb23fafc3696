import ContextStream.Iri.Wire
import ContextStream.Main
import ContextStream.Scheduler.Clock
import ContextStream.Turtle.Reader
import ContextStream.Proofs.Graph
import ContextStream.Proofs.Turtle.Lexing
import ContextStream.Proofs.Turtle.Grammar
import ContextStream.Proofs.Turtle.RoundTrip
import ContextStream.Proofs.Delivery.Acceptance
import ContextStream.Proofs.Json.Lexing
import ContextStream.Proofs.Json.Reading
import ContextStream.Proofs.Json.Records
import ContextStream.Proofs.Delivery.Wire
import ContextStream.Proofs.Assertion.Shape
import ContextStream.Proofs.Config
import ContextStream.Proofs.Delivery.Update
import ContextStream.Proofs.Scheduler.Failure
import ContextStream.Proofs.Application
import ContextStream.Proofs.Scheduler.Lifecycle
import ContextStream.Proofs.Scheduler.Tally
import ContextStream.Proofs.Scheduler.Cadence
import ContextStream.Proofs.Iri.Conformance
import ContextStream.Proofs.Json.Values
import ContextStream.Proofs.Json.Grammar
import ContextStream.Proofs.Callback.Echo
import ContextStream.Proofs.Callback.Acknowledgement
import ContextStream.Proofs.Config.Validation
import ContextStream.Proofs.Scheduler.Requests
import ContextStream.Proofs.Json.Mixtures
import ContextStream.Proofs.Config.Loading
import ContextStream.Proofs.Delivery.Codec
import ContextStream.Proofs.Callback.Agreement
import ContextStream.Proofs.Assertion.Verdict
import ContextStream.Proofs.Scheduler.Interleaving
import ContextStream.Proofs.Iri.Identifiers
import ContextStream.Proofs.Scheduler.Identifiers
import ContextStream.Proofs.Config.Intervals
import ContextStream.Proofs.Iri.Naming
import ContextStream.Proofs.Iri.Codec
import ContextStream.Proofs.Scheduler.Timestamps
import ContextStream.Proofs.Turtle.References
import ContextStream.Proofs.Graph.Order
import ContextStream.Proofs.Turtle.Regrouping
import ContextStream.Proofs.Config.Messages
import ContextStream.Proofs.Scheduler.Observation
