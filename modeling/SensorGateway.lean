import SensorGateway.Packet
import SensorGateway.Forwarder.Framing
import SensorGateway.Text.Blank
import SensorGateway.Text.Duration
import SensorGateway.Text.Lowercase
import SensorGateway.Floating.Text
import SensorGateway.Schema.Description
import SensorGateway.Record.Json
import SensorGateway.Record.Decode
import SensorGateway.Command.Encode
import SensorGateway.Toml.Reader
import SensorGateway.Toml.Writer
import SensorGateway.Settings.Document
import SensorGateway.Startup
import SensorGateway.Bus.Dispatch
import SensorGateway.Bus.Script
import SensorGateway.Forwarder.Connection
import SensorGateway.Record.Lines
import SensorGateway.Forwarder.Stream
import SensorGateway.Link.Waiting
import SensorGateway.Forwarder.Client
import SensorGateway.Forwarder.Relay
import SensorGateway.Link.Connections
import SensorGateway.Link.Reception
import SensorGateway.Main
import SensorGateway.Proofs.Bits
import SensorGateway.Proofs.Frame
import SensorGateway.Proofs.Keys
import SensorGateway.Proofs.Record.Lookup
import SensorGateway.Proofs.Record.Readings
import SensorGateway.Proofs.Record.Partial
import SensorGateway.Proofs.Outcome
import SensorGateway.Proofs.Text.Numeral
import SensorGateway.Proofs.Command.Denotation
import SensorGateway.Proofs.Command.Encode
import SensorGateway.Proofs.Command.Representable
import SensorGateway.Proofs.Command.Naming
import SensorGateway.Proofs.Record.Opening
import SensorGateway.Proofs.Record.Retrieval
import SensorGateway.Proofs.Record.Words
import SensorGateway.Proofs.Record.Lines
import SensorGateway.Proofs.RoundTrip
import SensorGateway.Proofs.Link.PacketLimit
import SensorGateway.Proofs.Link.Waiting
import SensorGateway.Proofs.Bus.Delivery
import SensorGateway.Proofs.Wrapping
import SensorGateway.Proofs.Command.Packet
import SensorGateway.Proofs.Bus.Commands
import SensorGateway.Proofs.Forwarder.Framing
import SensorGateway.Proofs.Forwarder.Reassembly
import SensorGateway.Proofs.Bus.Listeners
import SensorGateway.Proofs.Forwarder.Operations
import SensorGateway.Proofs.Forwarder.Subscription
import SensorGateway.Proofs.Acceptance
import SensorGateway.Proofs.Bus.History
import SensorGateway.Proofs.Bus.Sharing
import SensorGateway.Proofs.Bus.Window
import SensorGateway.Proofs.Text.Decimal
import SensorGateway.Proofs.Text.Lowercase
import SensorGateway.Proofs.Reencoding
import SensorGateway.Proofs.Forwarder.Lifecycle
import SensorGateway.Proofs.Forwarder.Queueing
import SensorGateway.Proofs.Link.Reception
import SensorGateway.Proofs.Recorders
import SensorGateway.Proofs.Forwarder.Relay
import SensorGateway.Proofs.Link.AtOnce
import SensorGateway.Proofs.Link.Threads
import SensorGateway.Proofs.Record.Provenance
import SensorGateway.Proofs.Record.SplitValues
import SensorGateway.Proofs.Rearrangement
import SensorGateway.Proofs.Bus.Payload
import SensorGateway.Proofs.Link.Acknowledgement
import SensorGateway.Proofs.Registration
import SensorGateway.Proofs.Record.ReadBack
import SensorGateway.Proofs.Record.Insertion
import SensorGateway.Proofs.Access
import SensorGateway.Proofs.Settings
