import FrameLink.Bytes
import FrameLink.Channel.Basic
import FrameLink.Channel.Config
import FrameLink.Channel.Error
import FrameLink.Channel.Handler
import FrameLink.Channel.Hub
import FrameLink.Channel.Receive
import FrameLink.Channel.Stimulus
import FrameLink.Checksum
import FrameLink.Console.About
import FrameLink.Console.Arguments
import FrameLink.Console.Errand
import FrameLink.Console.Failure
import FrameLink.Console.Format
import FrameLink.Console.InPlace
import FrameLink.Console.Inspection
import FrameLink.Console.Listening
import FrameLink.Console.Notice
import FrameLink.Console.Options
import FrameLink.Console.Program
import FrameLink.Console.Task
import FrameLink.Frame.Basic
import FrameLink.Frame.Codec
import FrameLink.Frame.Decode
import FrameLink.Frame.Error
import FrameLink.Frame.InPlace
import FrameLink.Frame.Resync
import FrameLink.Frame.Scanner
import FrameLink.IoError
import FrameLink.Kind
import FrameLink.Main
import FrameLink.Message.Basic
import FrameLink.Message.Error
import FrameLink.Message.Fields
import FrameLink.Message.InPlace
import FrameLink.Proofs.Channel.Alone
import FrameLink.Proofs.Channel.Attempts
import FrameLink.Proofs.Channel.Charges
import FrameLink.Proofs.Channel.Client
import FrameLink.Proofs.Channel.Counters
import FrameLink.Proofs.Channel.Crossed
import FrameLink.Proofs.Channel.Crowd
import FrameLink.Proofs.Channel.Delivery
import FrameLink.Proofs.Channel.Halted
import FrameLink.Proofs.Channel.Handover
import FrameLink.Proofs.Channel.Hops
import FrameLink.Proofs.Channel.Hub
import FrameLink.Proofs.Channel.Inflow
import FrameLink.Proofs.Channel.Leftover
import FrameLink.Proofs.Channel.Manned
import FrameLink.Proofs.Channel.Outage
import FrameLink.Proofs.Channel.Reading
import FrameLink.Proofs.Channel.Refused
import FrameLink.Proofs.Channel.Rest
import FrameLink.Proofs.Channel.Scanned
import FrameLink.Proofs.Channel.Sending
import FrameLink.Proofs.Channel.Session
import FrameLink.Proofs.Channel.Shelter
import FrameLink.Proofs.Channel.Tallies
import FrameLink.Proofs.Channel.Torn
import FrameLink.Proofs.Channel.Traffic
import FrameLink.Proofs.Channel.Transparent
import FrameLink.Proofs.Console.Copies
import FrameLink.Proofs.Console.Errand
import FrameLink.Proofs.Console.GivingUp
import FrameLink.Proofs.Console.Inspection
import FrameLink.Proofs.Console.Listening
import FrameLink.Proofs.Console.OneShot
import FrameLink.Proofs.Frame.Backlog
import FrameLink.Proofs.Frame.Chunks
import FrameLink.Proofs.Frame.Conservation
import FrameLink.Proofs.Frame.Corruption
import FrameLink.Proofs.Frame.Decided
import FrameLink.Proofs.Frame.Decode
import FrameLink.Proofs.Frame.InPlace
import FrameLink.Proofs.Frame.Leftmost
import FrameLink.Proofs.Frame.Scan
import FrameLink.Proofs.Frame.Sums
import FrameLink.Proofs.Message.Fields
import FrameLink.Proofs.Message.Frames
import FrameLink.Proofs.Message.Sizes
import FrameLink.Proofs.Record.Frames
import FrameLink.Proofs.Record.InPlace
import FrameLink.Proofs.Record.Layout
import FrameLink.Proofs.Record.Members
import FrameLink.Proofs.Stream.Answers
import FrameLink.Proofs.Stream.Deeds
import FrameLink.Proofs.Stream.InPlace
import FrameLink.Proofs.Stream.Pipe
import FrameLink.Proofs.Stream.Reader
import FrameLink.Proofs.Stream.Writer
import FrameLink.Proofs.Text.Blank
import FrameLink.Proofs.Text.Duration
import FrameLink.Proofs.Text.HexDump
import FrameLink.Proofs.Text.Json
import FrameLink.Proofs.Text.Kind
import FrameLink.Proofs.Text.Numeral
import FrameLink.Proofs.Transport.InPlace
import FrameLink.Proofs.Transport.Inbound
import FrameLink.Proofs.Transport.Outbound
import FrameLink.Record.Basic
import FrameLink.Record.Catalog
import FrameLink.Record.Fields
import FrameLink.Record.GroundReport
import FrameLink.Record.InPlace
import FrameLink.Record.Sort
import FrameLink.Record.Words
import FrameLink.Stream.InPlace
import FrameLink.Stream.Reader
import FrameLink.Stream.Sink
import FrameLink.Stream.Source
import FrameLink.Stream.Writer
import FrameLink.Text.Blank
import FrameLink.Text.Duration
import FrameLink.Text.Hex
import FrameLink.Text.HexDump
import FrameLink.Text.InPlace
import FrameLink.Text.Json
import FrameLink.Text.Numeral
import FrameLink.Text.Table
import FrameLink.Transport.Address
import FrameLink.Transport.Datagram
import FrameLink.Transport.Error
import FrameLink.Transport.InPlace
import FrameLink.Transport.Scripted
