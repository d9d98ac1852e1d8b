import SignalRelay.Client.Peer
import SignalRelay.CommandLine.Report
import SignalRelay.Events.Handlers
import SignalRelay.Hub.Requests
import SignalRelay.Main
import SignalRelay.Proofs.Identity
import SignalRelay.Proofs.Codec
import SignalRelay.Proofs.Request
import SignalRelay.Proofs.Queues
import SignalRelay.Proofs.Recipient
import SignalRelay.Proofs.Notices
import SignalRelay.Proofs.Channel
import SignalRelay.Proofs.Writing
import SignalRelay.Proofs.Agreement
import SignalRelay.Proofs.Occupancy
import SignalRelay.Proofs.Opening
import SignalRelay.Proofs.Provenance
import SignalRelay.Proofs.Generations
import SignalRelay.Proofs.Holders
import SignalRelay.Proofs.Bids
import SignalRelay.Proofs.Settlement
import SignalRelay.Proofs.Interleaving
import SignalRelay.Proofs.Json.Grammar
import SignalRelay.Proofs.Json.Documents
import SignalRelay.Proofs.Json.Skippable
import SignalRelay.Proofs.Json.Fields
import SignalRelay.Proofs.Presentation
import SignalRelay.Proofs.Admission
import SignalRelay.Proofs.Lifecycle
import SignalRelay.Proofs.Accounting
import SignalRelay.Proofs.Mount
import SignalRelay.Proofs.ReadLoop
import SignalRelay.Proofs.SocketLoop
import SignalRelay.Proofs.BoundedQueue
import SignalRelay.Proofs.RepeatedClosing
import SignalRelay.Proofs.Form
import SignalRelay.Proofs.NormalForm
import SignalRelay.Proofs.Credentials
import SignalRelay.Proofs.Emission
import SignalRelay.Proofs.Registry
import SignalRelay.Proofs.Serving
