import MpegRecorder.Bytes
import MpegRecorder.Capture.Detection
import MpegRecorder.Capture.Feeder
import MpegRecorder.Command.Args
import MpegRecorder.Command.Error
import MpegRecorder.Command.Job
import MpegRecorder.Command.Recording
import MpegRecorder.Command.Run
import MpegRecorder.Command.Splitter
import MpegRecorder.Config
import MpegRecorder.Container
import MpegRecorder.Elementary.Kind
import MpegRecorder.Elementary.Marker
import MpegRecorder.Elementary.Pes
import MpegRecorder.Elementary.Timestamp
import MpegRecorder.Engine.Basic
import MpegRecorder.Engine.Factory
import MpegRecorder.Engine.Mpeg
import MpegRecorder.Engine.Scripted
import MpegRecorder.Error
import MpegRecorder.Hex
import MpegRecorder.Main
import MpegRecorder.Malformed
import MpegRecorder.Medium
import MpegRecorder.Number.Binary
import MpegRecorder.Number.Rounding
import MpegRecorder.Number.Size
import MpegRecorder.Output.Basic
import MpegRecorder.Output.Buffer
import MpegRecorder.Output.Cut
import MpegRecorder.Output.Ring
import MpegRecorder.Pack.Header
import MpegRecorder.Pack.Muxer
import MpegRecorder.Packed
import MpegRecorder.Registry
import MpegRecorder.Session.Basic
import MpegRecorder.Session.Feed
import MpegRecorder.Storage.Basic
import MpegRecorder.Storage.Changes
import MpegRecorder.Storage.Error
import MpegRecorder.Storage.File
import MpegRecorder.Storage.FileName
import MpegRecorder.Storage.Opener
import MpegRecorder.Storage.Path
import MpegRecorder.Storage.Tree
import MpegRecorder.Studio
import MpegRecorder.Text.Blank
import MpegRecorder.Text.Hidden
import MpegRecorder.Text.Quoted
import MpegRecorder.Text.Range
import MpegRecorder.Transport.Association
import MpegRecorder.Transport.Crc
import MpegRecorder.Transport.Packet
import MpegRecorder.Transport.Probe
import MpegRecorder.Transport.Program
import MpegRecorder.Transport.ProgramMap
import MpegRecorder.Transport.Section
import MpegRecorder.Transport.Sync
import MpegRecorder.Transport.Synthetic
import MpegRecorder.Tuning
import MpegRecorder.Proofs.Output.Writing
import MpegRecorder.Proofs.Output.Delivery
import MpegRecorder.Proofs.Output.Retry
import MpegRecorder.Proofs.Output.Invariant
import MpegRecorder.Proofs.Output.SelfSwitch
import MpegRecorder.Proofs.Capture.Passage
import MpegRecorder.Proofs.Capture.Pieces
import MpegRecorder.Proofs.Output.Accepted
import MpegRecorder.Proofs.Output.Circular
import MpegRecorder.Proofs.Elementary.Extent
import MpegRecorder.Proofs.Pack.Framing
import MpegRecorder.Proofs.Capture.Replay
import MpegRecorder.Proofs.Session.Watching
import MpegRecorder.Proofs.Session.Underway
import MpegRecorder.Proofs.Session.Turn
import MpegRecorder.Proofs.Session.Course
import MpegRecorder.Proofs.Engine.Passing
import MpegRecorder.Proofs.Output.Steady
import MpegRecorder.Proofs.Session.Recorded
import MpegRecorder.Proofs.Session.Journal
import MpegRecorder.Proofs.Session.Epochs
import MpegRecorder.Proofs.Pack.Contents
import MpegRecorder.Proofs.Pack.Streams
import MpegRecorder.Proofs.Output.History
import MpegRecorder.Proofs.Output.Served
import MpegRecorder.Proofs.Output.PacketCut
import MpegRecorder.Proofs.Output.Splice
import MpegRecorder.Proofs.Output.Whereabouts
import MpegRecorder.Proofs.Registry
import MpegRecorder.Proofs.Session.Whereabouts
import MpegRecorder.Proofs.Output.Conduct
import MpegRecorder.Proofs.Studio.Naming
import MpegRecorder.Proofs.Session.Ended
import MpegRecorder.Proofs.Session.Unknown
import MpegRecorder.Proofs.Capture.Balance
import MpegRecorder.Proofs.Session.Steps
import MpegRecorder.Proofs.Session.Ledger
import MpegRecorder.Proofs.Output.Policy
import MpegRecorder.Proofs.Session.Correction
import MpegRecorder.Proofs.Transport.Selected
import MpegRecorder.Proofs.Output.Counted
import MpegRecorder.Proofs.Access.Engine
import MpegRecorder.Proofs.Session.Reopenings
import MpegRecorder.Proofs.Storage.Faultless
import MpegRecorder.Proofs.Output.Handover
import MpegRecorder.Proofs.Output.Search
import MpegRecorder.Proofs.Output.Pending
import MpegRecorder.Proofs.Output.Acts
import MpegRecorder.Proofs.Output.Course
import MpegRecorder.Proofs.Output.Portions
import MpegRecorder.Proofs.Engine.Portions
import MpegRecorder.Proofs.Session.Acts
import MpegRecorder.Proofs.Session.Portions
import MpegRecorder.Proofs.Session.PacketSplices
import MpegRecorder.Proofs.Pack.Boundary
import MpegRecorder.Proofs.Output.Granted
import MpegRecorder.Proofs.Output.PackCut
import MpegRecorder.Proofs.Session.FirstUnit
import MpegRecorder.Proofs.Session.PackSplices
import MpegRecorder.Proofs.Capture.Resync
import MpegRecorder.Proofs.Session.Passes
import MpegRecorder.Proofs.Elementary.Marker
import MpegRecorder.Proofs.Engine.Filtering
import MpegRecorder.Proofs.Transport.RoundTrip
import MpegRecorder.Proofs.Pack.Clock
import MpegRecorder.Proofs.Transport.StreamLoop
import MpegRecorder.Proofs.Pack.Recoding
import MpegRecorder.Proofs.Session.Progress
import MpegRecorder.Proofs.Pack.Walk
import MpegRecorder.Proofs.Transport.Check
import MpegRecorder.Proofs.Number.Size
import MpegRecorder.Proofs.Command.Splitting
