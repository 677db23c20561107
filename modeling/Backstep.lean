import Backstep.BinaryFraction
import Backstep.Chain
import Backstep.Command.Errand
import Backstep.Command.Live
import Backstep.Command.Options
import Backstep.Command.Report
import Backstep.Command.Surroundings
import Backstep.History.Log
import Backstep.History.RunError
import Backstep.History.Session
import Backstep.History.Snapshot
import Backstep.Machine.CallStack
import Backstep.Machine.Execute
import Backstep.Machine.Fault
import Backstep.Machine.Heap
import Backstep.Machine.LabelTable
import Backstep.Machine.OperandStack
import Backstep.Machine.State
import Backstep.Machine.Stream
import Backstep.Machine.Transcript
import Backstep.Machine.Value
import Backstep.Main
import Backstep.Positional
import Backstep.Program.Instruction
import Backstep.Program.Operation
import Backstep.Program.Reader
import Backstep.Screen.Ansi
import Backstep.Screen.Line
import Backstep.Screen.Picture
import Backstep.Screen.Row
import Backstep.Screen.Style
import Backstep.Source.Cursor
import Backstep.Source.Literal
import Backstep.Source.Location
import Backstep.Source.Symbol
import Backstep.SquareRoot
import Backstep.Tally
import Backstep.Text.Align
import Backstep.Text.BreakClass
import Backstep.Text.Cluster
import Backstep.Text.CodePoint
import Backstep.Text.Decimal
import Backstep.Text.Emoji
import Backstep.Text.Printable
import Backstep.Text.Quoted
import Backstep.Text.Utf8
import Backstep.Text.Width
import Backstep.Viewer.Basic
import Backstep.Viewer.Content
import Backstep.Viewer.Key
import Backstep.Viewer.Render
import Backstep.Viewer.Scroll
import Backstep.Viewer.Theme
import Backstep.Proofs.Intent
import Backstep.Proofs.Requests
import Backstep.Proofs.Attempt
import Backstep.Proofs.Faithfulness
import Backstep.Proofs.Control
import Backstep.Proofs.Grammar
import Backstep.Proofs.RoundTrip
import Backstep.Proofs.FilledTable
import Backstep.Proofs.Budget
import Backstep.Proofs.Reachable
import Backstep.Proofs.Effects
import Backstep.Proofs.Atomicity
import Backstep.Proofs.Lockstep
import Backstep.Proofs.Replay
import Backstep.Proofs.Wellformed
import Backstep.Proofs.FullRecording
import Backstep.Proofs.Termination
import Backstep.Proofs.Bracketing
import Backstep.Proofs.Comments
import Backstep.Proofs.StraightLine
import Backstep.Proofs.Expressions
import Backstep.Proofs.Encoding
import Backstep.Proofs.WrittenForms
import Backstep.Proofs.Decoding
import Backstep.Proofs.EndOfInput
import Backstep.Proofs.ReadBack
import Backstep.Proofs.Renaming
import Backstep.Proofs.Mirror
import Backstep.Proofs.Playback
import Backstep.Proofs.Bounds
import Backstep.Proofs.Browsing
import Backstep.Proofs.Blame
import Backstep.Proofs.Settings
import Backstep.Proofs.CommandLine
import Backstep.Proofs.Operands
import Backstep.Proofs.ReadBounds
import Backstep.Proofs.Supplied
import Backstep.Proofs.ExecuteBounds
import Backstep.Proofs.SessionBounds
import Backstep.Proofs.Account
import Backstep.Proofs.Locations
import Backstep.Proofs.TableOrder
import Backstep.Proofs.LabelRequests
import Backstep.Proofs.Stores
import Backstep.Proofs.Canonical
import Backstep.Proofs.Counts
import Backstep.Proofs.Rewinding
import Backstep.Proofs.Settling
import Backstep.Proofs.Following
import Backstep.Proofs.Growth
