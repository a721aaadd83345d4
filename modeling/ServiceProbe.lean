import ServiceProbe.Program
import ServiceProbe.Main
import ServiceProbe.Proofs.Greeting.Padding
import ServiceProbe.Proofs.Peer.Pieces
import ServiceProbe.Proofs.Greeting.Course
import ServiceProbe.Proofs.Greeting.Acceptance
import ServiceProbe.Proofs.Greeting.Rules
import ServiceProbe.Proofs.Greeting.Segmentation
import ServiceProbe.Proofs.Greeting.Banner
import ServiceProbe.Proofs.ItemKey.Fields
import ServiceProbe.Proofs.ItemKey.RoundTrip
import ServiceProbe.Proofs.Greeting.Dialogue
import ServiceProbe.Proofs.Greeting.Deadline
import ServiceProbe.Proofs.ItemKey.Grammar
import ServiceProbe.Proofs.ItemKey.Refusal
import ServiceProbe.Proofs.Port.Tokens
import ServiceProbe.Proofs.Target.Resolution
import ServiceProbe.Proofs.Check.Probe
import ServiceProbe.Proofs.Metric.Targets
import ServiceProbe.Proofs.Metric.PlainConnection
import ServiceProbe.Proofs.Elapsed.Range
import ServiceProbe.Proofs.Metric.Timing
import ServiceProbe.Proofs.Batch.Schedule
import ServiceProbe.Proofs.Greeting.LaterDeadline
import ServiceProbe.Proofs.Greeting.RuleTable
import ServiceProbe.Proofs.Metric.OmittedParams
import ServiceProbe.Proofs.Program.Routes
import ServiceProbe.Proofs.Elapsed.Rounding
import ServiceProbe.Proofs.Greeting.Version
import ServiceProbe.Proofs.Greeting.Identification
import ServiceProbe.Proofs.Port.Meaning
import ServiceProbe.Proofs.Target.Description
import ServiceProbe.Proofs.ItemKey.Position
import ServiceProbe.Proofs.ItemKey.CutOff
import ServiceProbe.Proofs.Elapsed.Digits
import ServiceProbe.Proofs.Elapsed.Order
import ServiceProbe.Proofs.ItemKey.Quoting
import ServiceProbe.Proofs.Target.Text
import ServiceProbe.Proofs.Greeting.Effort
