import ImageGateway.CacheLimits
import ImageGateway.CommandLine.Arguments
import ImageGateway.CommandLine.Run
import ImageGateway.Config
import ImageGateway.Control
import ImageGateway.Decimal.Shortest
import ImageGateway.Failure
import ImageGateway.Foreign.Basic
import ImageGateway.Foreign.Fetch
import ImageGateway.Foreign.Fill
import ImageGateway.Foreign.Start
import ImageGateway.Foreign.TileCache
import ImageGateway.Gate
import ImageGateway.Json.Cursor
import ImageGateway.Json.Fault
import ImageGateway.Json.Literal
import ImageGateway.Json.Node
import ImageGateway.Json.Reader
import ImageGateway.Library.Fault
import ImageGateway.Library.Opening
import ImageGateway.Library.Paths
import ImageGateway.Main
import ImageGateway.Native.Basic
import ImageGateway.Native.Call
import ImageGateway.Native.Silent
import ImageGateway.Native.Symbol
import ImageGateway.Native.Trace
import ImageGateway.Operation.Argument
import ImageGateway.Operation.Basic
import ImageGateway.Operation.TileCache
import ImageGateway.Program.Basic
import ImageGateway.Program.Transcript
import ImageGateway.Property.Basic
import ImageGateway.Property.Flags
import ImageGateway.Reference
import ImageGateway.Span
import ImageGateway.Text.Blank
import ImageGateway.Text.Decimal
import ImageGateway.Text.Quoted
import ImageGateway.Text.Unprintable
import ImageGateway.Text.Utf8
import ImageGateway.Value.Basic
import ImageGateway.Value.Boxing
import ImageGateway.Value.Reading
import ImageGateway.Proofs.Asks
import ImageGateway.Proofs.Watch
import ImageGateway.Proofs.Resource
import ImageGateway.Proofs.Questions
import ImageGateway.Proofs.Background
import ImageGateway.Proofs.Custody.Values
import ImageGateway.Proofs.Custody.References
import ImageGateway.Proofs.Custody.Properties
import ImageGateway.Proofs.Custody.Operations
import ImageGateway.Proofs.Custody.Deeds
import ImageGateway.Proofs.Tally
import ImageGateway.Proofs.Custody.Exports
import ImageGateway.Proofs.EntryPoints
import ImageGateway.Proofs.Custody.Sessions
import ImageGateway.Proofs.Processes
import ImageGateway.Proofs.References
import ImageGateway.Proofs.Custody.Slots
import ImageGateway.Proofs.ForeignReferences
import ImageGateway.Proofs.CallProtocol
import ImageGateway.Proofs.Cells
import ImageGateway.Proofs.Spoken
import ImageGateway.Proofs.Assignment
import ImageGateway.Proofs.Conduct.Basic
import ImageGateway.Proofs.Conduct.Operations
import ImageGateway.Proofs.Conduct.Sessions
import ImageGateway.Proofs.Nicks
import ImageGateway.Proofs.NullHandles
import ImageGateway.Proofs.TypeTable
import ImageGateway.Proofs.Types
import ImageGateway.Proofs.Refusals.Basic
import ImageGateway.Proofs.Refusals.Operations
import ImageGateway.Proofs.Refusals.Exports
import ImageGateway.Proofs.TypeSafety
import ImageGateway.Proofs.Publication.OneTable
import ImageGateway.Proofs.Outcomes
import ImageGateway.Proofs.Messages.Deeds
import ImageGateway.Proofs.Utf8
import ImageGateway.Proofs.OwnCells
import ImageGateway.Proofs.TwoWays.Agreement
import ImageGateway.Proofs.TwoWays.Assigning
import ImageGateway.Proofs.LenientText
import ImageGateway.Proofs.Opening.Resolution
import ImageGateway.Proofs.Opening.Paths
import ImageGateway.Proofs.StartUp.Exits
import ImageGateway.Proofs.StartUp.Settings
import ImageGateway.Proofs.Buffers
import ImageGateway.Proofs.Keeping.Properties
import ImageGateway.Proofs.Texts.Whole
import ImageGateway.Proofs.StartUp.Environment
import ImageGateway.Proofs.Speech
import ImageGateway.Proofs.PropertyReading
import ImageGateway.Proofs.NamedParameters
import ImageGateway.Proofs.CommandLine.Stages
import ImageGateway.Proofs.ImageArrays
import ImageGateway.Proofs.Documents.Grammar
import ImageGateway.Proofs.Documents.Numbers
import ImageGateway.Proofs.Documents.Strings
import ImageGateway.Proofs.Documents.Trees
import ImageGateway.Proofs.Documents.Records
import ImageGateway.Proofs.Documents.Configuration
