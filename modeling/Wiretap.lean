import Wiretap.Address.Ip
import Wiretap.Address.Socket
import Wiretap.Bytes
import Wiretap.Connection.Basic
import Wiretap.Digest.Sha1
import Wiretap.Fault
import Wiretap.Listener.Drain
import Wiretap.Listener.House
import Wiretap.Listener.Loop
import Wiretap.Listener.Service
import Wiretap.Listener.Signal
import Wiretap.Listener.State
import Wiretap.Listener.Tracker
import Wiretap.Main
import Wiretap.Message.Fields
import Wiretap.Message.HeadReader
import Wiretap.Message.HeadStream
import Wiretap.Message.HeadSyntax
import Wiretap.Message.Reply
import Wiretap.Message.RequestHead
import Wiretap.Message.Status
import Wiretap.Message.Takeover
import Wiretap.Message.Uri
import Wiretap.Observer.CaptureLog
import Wiretap.Observer.Hook
import Wiretap.Observer.Log
import Wiretap.Observer.Metric
import Wiretap.Proofs.Connection.Conservation
import Wiretap.Proofs.Connection.Course
import Wiretap.Proofs.Connection.Discipline
import Wiretap.Proofs.Connection.Usage
import Wiretap.Proofs.Listener.Brackets
import Wiretap.Proofs.Listener.Capacity
import Wiretap.Proofs.Listener.Deadline
import Wiretap.Proofs.Listener.Draining
import Wiretap.Proofs.Listener.Lifecycle
import Wiretap.Proofs.Listener.Moves
import Wiretap.Proofs.Listener.Permits
import Wiretap.Proofs.Listener.Signalling
import Wiretap.Proofs.Listener.Stages
import Wiretap.Proofs.Listener.Starting
import Wiretap.Proofs.Listener.Subscriptions
import Wiretap.Proofs.Listener.Visits
import Wiretap.Proofs.Message.FieldChanges
import Wiretap.Proofs.Message.FieldGroups
import Wiretap.Proofs.Message.HeadDelivery
import Wiretap.Proofs.Message.HeadFraming
import Wiretap.Proofs.Message.HeadLines
import Wiretap.Proofs.Message.HeadRendering
import Wiretap.Proofs.Message.HeadVerdict
import Wiretap.Proofs.Message.ReplyForm
import Wiretap.Proofs.Message.ReplyReading
import Wiretap.Proofs.Message.ReplySplitting
import Wiretap.Proofs.Message.Resolution
import Wiretap.Proofs.Message.Routing
import Wiretap.Proofs.Message.TakeoverBlocks
import Wiretap.Proofs.Message.TakeoverPhase
import Wiretap.Proofs.Message.TargetParts
import Wiretap.Proofs.Observer.Totals
import Wiretap.Proofs.Session.Addressing
import Wiretap.Proofs.Session.Answers
import Wiretap.Proofs.Session.Attempts
import Wiretap.Proofs.Session.Chronicle
import Wiretap.Proofs.Session.Chunked
import Wiretap.Proofs.Session.Conveying
import Wiretap.Proofs.Session.Crossings
import Wiretap.Proofs.Session.Decisions
import Wiretap.Proofs.Session.Ensembles
import Wiretap.Proofs.Session.Forwarding
import Wiretap.Proofs.Session.HandOver
import Wiretap.Proofs.Session.Hearings
import Wiretap.Proofs.Session.Ledger
import Wiretap.Proofs.Session.Lengths
import Wiretap.Proofs.Session.Logic
import Wiretap.Proofs.Session.Midway
import Wiretap.Proofs.Session.Obedience
import Wiretap.Proofs.Session.Openings
import Wiretap.Proofs.Session.Phases
import Wiretap.Proofs.Session.Refusals
import Wiretap.Proofs.Session.Relaying
import Wiretap.Proofs.Session.Runs
import Wiretap.Proofs.Session.Serving
import Wiretap.Proofs.Session.Subprotocols
import Wiretap.Proofs.Session.Tallies
import Wiretap.Proofs.Settings.Precedence
import Wiretap.Proofs.Settings.Validation
import Wiretap.Proofs.Text.Previews
import Wiretap.Proofs.Transport.Copying
import Wiretap.Proofs.Transport.Ends
import Wiretap.Proofs.Transport.Patience
import Wiretap.Proofs.Transport.Peered
import Wiretap.Proofs.Transport.Sinks
import Wiretap.Proofs.Transport.Sources
import Wiretap.Proofs.WebSocket.Crossing
import Wiretap.Proofs.WebSocket.HandshakeFields
import Wiretap.Proofs.WebSocket.Offers
import Wiretap.Proofs.WebSocket.Origins
import Wiretap.Rehearsal.Attempt
import Wiretap.Rehearsal.Conduct
import Wiretap.Rehearsal.Isolation
import Wiretap.Rehearsal.Reception
import Wiretap.Rehearsal.Scene
import Wiretap.Rehearsal.Script
import Wiretap.Rehearsal.Sniffing
import Wiretap.Rehearsal.Wire
import Wiretap.Session.Attend
import Wiretap.Session.Context
import Wiretap.Session.Crash
import Wiretap.Session.Dialogue
import Wiretap.Session.Dispatch
import Wiretap.Session.Effort
import Wiretap.Session.Ensemble
import Wiretap.Session.Forward
import Wiretap.Session.Greeting
import Wiretap.Session.Hearing
import Wiretap.Session.Outcome
import Wiretap.Session.Performance
import Wiretap.Session.Post
import Wiretap.Session.Record
import Wiretap.Session.Tunnel
import Wiretap.Session.Upgrade
import Wiretap.Settings.Effective
import Wiretap.Settings.File
import Wiretap.Settings.Flags
import Wiretap.Text.CharRanges
import Wiretap.Text.Decimal
import Wiretap.Text.Preview
import Wiretap.Text.Quoted
import Wiretap.Text.Reader
import Wiretap.Text.Span
import Wiretap.Text.Utf8
import Wiretap.Toml.Document
import Wiretap.Toml.Entries
import Wiretap.Toml.Scalar
import Wiretap.Transport.Basic
import Wiretap.Transport.Buffered
import Wiretap.Transport.Chunks
import Wiretap.Transport.Copy
import Wiretap.Transport.Limited
import Wiretap.Transport.Pipe
import Wiretap.Transport.Traffic
import Wiretap.Url.Host
import Wiretap.Url.Location
import Wiretap.Url.Punycode
import Wiretap.WebSocket.Frame
import Wiretap.WebSocket.Handshake
import Wiretap.WebSocket.Pump
import Wiretap.WebSocket.Relay
