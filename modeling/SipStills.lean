import SipStills.Agent
import SipStills.Agent.Account
import SipStills.Agent.Directory
import SipStills.Agent.InFlight
import SipStills.Agent.Reaction
import SipStills.Agent.Request
import SipStills.Agent.World
import SipStills.Bytes
import SipStills.Codec
import SipStills.Codec.Feed
import SipStills.Codec.Packet
import SipStills.Decimal.Shortest
import SipStills.Dispatch
import SipStills.Engine
import SipStills.Engine.Basic
import SipStills.Event
import SipStills.Fault
import SipStills.Foreign
import SipStills.Json.Fault
import SipStills.Json.Format
import SipStills.Json.Reader
import SipStills.Json.Record
import SipStills.Json.Writer
import SipStills.Main
import SipStills.Picture.Format
import SipStills.Picture.Frame
import SipStills.Pipeline
import SipStills.Pipeline.Registry
import SipStills.Pipeline.Synthetic
import SipStills.ProgramStream.Demuxer
import SipStills.ProgramStream.Portion
import SipStills.ProgramStream.StreamMap
import SipStills.ProgramStream.Writer
import SipStills.Registration
import SipStills.Replay
import SipStills.Run
import SipStills.Service
import SipStills.Settings.Basic
import SipStills.Settings.Format
import SipStills.Sink.Channel
import SipStills.Sink.Folder
import SipStills.Still.Encoder
import SipStills.Still.Scan
import SipStills.Text.Blank
import SipStills.Text.Digits
import SipStills.Text.Hidden
import SipStills.Text.Quoted
import SipStills.Text.Utf8
import SipStills.ThreadGate
import SipStills.Proofs.ProgramStream.Chunking
import SipStills.Proofs.ProgramStream.RoundTrip
import SipStills.Proofs.Pipeline.Recorded
import SipStills.Proofs.Pipeline.Lives
import SipStills.Proofs.Pipeline.Behaviour
import SipStills.Proofs.Pipeline.Isolation
import SipStills.Proofs.Pipeline.Accounting
import SipStills.Proofs.Registration
import SipStills.Proofs.Agent.Books
import SipStills.Proofs.Agent.Runs
import SipStills.Proofs.Agent.Teardown
import SipStills.Proofs.Agent.Handlers
import SipStills.Proofs.Agent.Records
import SipStills.Proofs.Agent.Refusals
import SipStills.Proofs.Engine.Invariant
import SipStills.Proofs.Agent.InFlight
import SipStills.Proofs.Picture.Frame
import SipStills.Proofs.Picture.Rows
import SipStills.Proofs.Still.Scan
import SipStills.Proofs.Codec.Fifo
import SipStills.Proofs.Codec.Feeding
import SipStills.Proofs.Pipeline.Modes
import SipStills.Proofs.ProgramStream.Units
import SipStills.Proofs.Replay
import SipStills.Proofs.Sink.Folder
import SipStills.Proofs.Engine.Record
import SipStills.Proofs.Dispatch
import SipStills.Proofs.Agent.History
import SipStills.Proofs.Agent.Parts
import SipStills.Proofs.Agent.Reach
import SipStills.Proofs.Agent.Consumer
import SipStills.Proofs.Agent.Handles
import SipStills.Proofs.Agent.Down
import SipStills.Proofs.Agent.Interruptions
import SipStills.Proofs.Json.Formats
import SipStills.Proofs.ProgramStream.Resync
import SipStills.Proofs.ProgramStream.Truncation
import SipStills.Proofs.Json.Records
import SipStills.Proofs.Settings
import SipStills.Proofs.Sink.Numbering
import SipStills.Proofs.Still.Chroma
import SipStills.Proofs.ProgramStream.Runs
import SipStills.Proofs.ProgramStream.Reading
import SipStills.Proofs.ProgramStream.Restart
import SipStills.Proofs.ProgramStream.MapBounds
import SipStills.Proofs.ThreadGate
import SipStills.Proofs.Agent.Shutdown
import SipStills.Proofs.Service
import SipStills.Proofs.Foreign
import SipStills.Proofs.Agent.Handoff
import SipStills.Proofs.ProgramStream.Remainder
import SipStills.Proofs.Settings.Partial
