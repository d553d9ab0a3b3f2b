import Refactoring.Text.Position
import Refactoring.Text.Utf8
import Refactoring.Text.Blank
import Refactoring.Text.Quoted
import Refactoring.Number.Shortest
import Refactoring.Json.Basic
import Refactoring.Json.Printer
import Refactoring.Json.Fault
import Refactoring.Json.Reader
import Refactoring.Uri.Host
import Refactoring.Uri.Place
import Refactoring.Wire.Uri
import Refactoring.Wire.Edit
import Refactoring.Wire.Action
import Refactoring.Wire.Kind
import Refactoring.Wire.Request
import Refactoring.Rpc.Frame
import Refactoring.Rpc.Message
import Refactoring.Failure
import Refactoring.Disk.Operations
import Refactoring.Edit.Apply
import Refactoring.Edit.Touched
import Refactoring.Json.Schema
import Refactoring.Settings.Store
import Refactoring.Session.Initialize
import Refactoring.Program
import Refactoring.Flow.Call
import Refactoring.Flow.Apply
import Refactoring.Flow.Move
import Refactoring.Flow.Refactor
import Refactoring.Flow.Client
import Refactoring.Flow.Rehearsal
import Refactoring.Wire.Session
import Refactoring.Session.Connection
import Refactoring.Session.System
import Refactoring.Session.Requests
import Refactoring.Terminal.Host
import Refactoring.Session.Peer
import Refactoring.Session.Stage
import Refactoring.Terminal.Arguments
import Refactoring.Terminal.CommandLine
import Refactoring.Main
import Refactoring.Proofs.Session.Exchange
import Refactoring.Proofs.Session.Response
import Refactoring.Proofs.Session.Numbers
import Refactoring.Proofs.Session.Completion
import Refactoring.Proofs.Session.Ending
import Refactoring.Proofs.Session.Abandoned
import Refactoring.Proofs.Session.Answers
import Refactoring.Proofs.Json.Records
import Refactoring.Proofs.Json.Stability
import Refactoring.Proofs.Json.Same
import Refactoring.Proofs.Json.Printed
import Refactoring.Proofs.Json.Shapes
import Refactoring.Proofs.Wire.Places
import Refactoring.Proofs.Wire.Actions
import Refactoring.Proofs.Wire.Edits
import Refactoring.Proofs.Wire.Requests
import Refactoring.Proofs.Wire.Destinations
import Refactoring.Proofs.Rpc.Framing
import Refactoring.Proofs.Rpc.Arrival
import Refactoring.Proofs.Rpc.Headers
import Refactoring.Proofs.Disk.Lookup
import Refactoring.Proofs.Disk.Paths
import Refactoring.Proofs.Disk.Operations
import Refactoring.Proofs.Disk.Files
import Refactoring.Proofs.Disk.Routes
import Refactoring.Proofs.Edit.Events
import Refactoring.Proofs.Edit.Order
import Refactoring.Proofs.Edit.Attempts
import Refactoring.Proofs.Edit.Documents
import Refactoring.Proofs.Edit.Files
import Refactoring.Proofs.Text.Splices
import Refactoring.Proofs.Text.Addressable
import Refactoring.Proofs.Text.Lines
import Refactoring.Proofs.Text.Columns
import Refactoring.Proofs.Text.Ordered
import Refactoring.Proofs.Edit.Outcomes
import Refactoring.Proofs.Edit.Folders
import Refactoring.Proofs.Flow.Runs
import Refactoring.Proofs.Flow.Reports
import Refactoring.Proofs.Flow.Errands
import Refactoring.Proofs.Flow.Calls
import Refactoring.Proofs.Flow.Results
import Refactoring.Proofs.Flow.Requests
import Refactoring.Proofs.Flow.Saving
import Refactoring.Proofs.Flow.Moves
import Refactoring.Proofs.Flow.Choices
import Refactoring.Proofs.Flow.Exclusions
import Refactoring.Proofs.Flow.Queries
import Refactoring.Proofs.Flow.Collisions
import Refactoring.Proofs.Flow.Courses
import Refactoring.Proofs.Flow.Inquiries
import Refactoring.Proofs.Flow.Origins
import Refactoring.Proofs.Flow.Refusals
import Refactoring.Proofs.Flow.Applied
import Refactoring.Proofs.Flow.Dismissals
import Refactoring.Proofs.Flow.Renames
import Refactoring.Proofs.Flow.Returns
import Refactoring.Proofs.Terminal.Renames
import Refactoring.Proofs.Text.Overlaps
import Refactoring.Proofs.Text.Arranged
import Refactoring.Proofs.Edit.Overlaps
import Refactoring.Proofs.Disk.Leftovers
import Refactoring.Proofs.Disk.Directories
import Refactoring.Proofs.Uri.OwnFiles
import Refactoring.Proofs.Uri.Directories
import Refactoring.Proofs.Uri.Spelling
import Refactoring.Proofs.Settings.Created
import Refactoring.Proofs.Settings.Sharing
import Refactoring.Proofs.Edit.Leftovers
import Refactoring.Proofs.Edit.Effects
import Refactoring.Proofs.Edit.Entries
