import HciTransport.Bytes
import HciTransport.Channel.Alone
import HciTransport.Channel.Interleaving
import HciTransport.Channel.Point
import HciTransport.Channel.Step
import HciTransport.Channel.Stream
import HciTransport.CommandLine.Arguments
import HciTransport.CommandLine.Options
import HciTransport.CommandLine.Outcome
import HciTransport.CommandLine.Run
import HciTransport.Control
import HciTransport.ControlCode
import HciTransport.Descriptor
import HciTransport.Device.Address
import HciTransport.Device.Entry
import HciTransport.Device.Flags
import HciTransport.Device.Info
import HciTransport.Duration
import HciTransport.Errands
import HciTransport.Error.Hci
import HciTransport.Error.Io
import HciTransport.Error.Kind
import HciTransport.Error.System
import HciTransport.Kernel
import HciTransport.Log
import HciTransport.Main
import HciTransport.Open
import HciTransport.Packet
import HciTransport.Program
import HciTransport.Proofs.Channel.Account
import HciTransport.Proofs.Channel.Alone
import HciTransport.Proofs.Channel.Course
import HciTransport.Proofs.Channel.Decision
import HciTransport.Proofs.Channel.Drop
import HciTransport.Proofs.Channel.Flags
import HciTransport.Proofs.Channel.Frames
import HciTransport.Proofs.Channel.Linearization
import HciTransport.Proofs.Channel.Locks
import HciTransport.Proofs.Channel.Order
import HciTransport.Proofs.Channel.Progress
import HciTransport.Proofs.Channel.Reads
import HciTransport.Proofs.Channel.Release
import HciTransport.Proofs.Channel.Report
import HciTransport.Proofs.Channel.Schedule
import HciTransport.Proofs.Channel.Settlement
import HciTransport.Proofs.Channel.Shutdown
import HciTransport.Proofs.Channel.Turn
import HciTransport.Proofs.Open.Sequence
import HciTransport.Proofs.Socket.Lifetime
import HciTransport.Proofs.Socket.Numbers
import HciTransport.Proofs.Socket.Tidy
import HciTransport.Proofs.Trace
import HciTransport.RawSocket
import HciTransport.Simulation.CommandRun
import HciTransport.Simulation.RawSession
import HciTransport.Simulation.Scene
import HciTransport.Simulation.Script
import HciTransport.Simulation.Session
import HciTransport.Simulation.World
import HciTransport.Stream
import HciTransport.Text.Hex
import HciTransport.Text.Utf8
import HciTransport.Proofs.Open.Probe
import HciTransport.Proofs.Open.Opening
import HciTransport.Proofs.CommandLine.Frames
import HciTransport.Proofs.CommandLine.Dump
import HciTransport.Proofs.CommandLine.Lines
import HciTransport.Proofs.Failure.Request
import HciTransport.Proofs.Failure.Operation
import HciTransport.Proofs.Failure.Told
import HciTransport.Proofs.Failure.Attribution
import HciTransport.Proofs.Device.Field
import HciTransport.Proofs.Device.Record
import HciTransport.Proofs.Open.Exhaustion
import HciTransport.Proofs.Said
import HciTransport.Proofs.Control.Protocol
import HciTransport.Proofs.CommandLine.Printout
import HciTransport.Proofs.Channel.Solo
import HciTransport.Proofs.Channel.Sequential
import HciTransport.Proofs.Control.Records
import HciTransport.Proofs.Socket.Listing
import HciTransport.Proofs.Open.Draining
import HciTransport.Proofs.CommandLine.Waits
import HciTransport.Proofs.Text.Hex
import HciTransport.Proofs.Control.Code
import HciTransport.Proofs.Text.Lossy
import HciTransport.Proofs.Device.Name
import HciTransport.Proofs.Failure.Message
import HciTransport.Proofs.Channel.Streamed
import HciTransport.Proofs.Simulation.Drive
import HciTransport.Proofs.Simulation.Streams
import HciTransport.Proofs.Text.Pieces
import HciTransport.Proofs.Device.Flags
import HciTransport.Proofs.Device.Address
import HciTransport.Proofs.Socket.Granted
import HciTransport.Proofs.Control.Calls
import HciTransport.Proofs.CommandLine.Values
import HciTransport.Proofs.CommandLine.Reporting
