import PipelineGraph.Clipboard
import PipelineGraph.CommandLine.Files
import PipelineGraph.CommandLine.Run
import PipelineGraph.CommandLine.Usage
import PipelineGraph.Document.Basic
import PipelineGraph.Document.Fields
import PipelineGraph.Document.Json
import PipelineGraph.Document.Ron
import PipelineGraph.Document.Text
import PipelineGraph.Drag
import PipelineGraph.Edge
import PipelineGraph.Editor.Basic
import PipelineGraph.Editor.Call
import PipelineGraph.Editor.Input
import PipelineGraph.Function
import PipelineGraph.Geometry
import PipelineGraph.Graph.Basic
import PipelineGraph.Graph.Connection
import PipelineGraph.Graph.Reachability
import PipelineGraph.Graph.Removal
import PipelineGraph.Graph.Snapshot
import PipelineGraph.Identity
import PipelineGraph.Json.Basic
import PipelineGraph.Json.Decode
import PipelineGraph.Json.Number
import PipelineGraph.Json.Parser
import PipelineGraph.Json.Text
import PipelineGraph.Main
import PipelineGraph.Marquee
import PipelineGraph.Naming
import PipelineGraph.Node
import PipelineGraph.Number.Binary
import PipelineGraph.Number.Shortest
import PipelineGraph.Number.Text
import PipelineGraph.OrderedMap
import PipelineGraph.Payload
import PipelineGraph.Payload.Text
import PipelineGraph.Port
import PipelineGraph.Proofs.BareReferences
import PipelineGraph.Proofs.Batches
import PipelineGraph.Proofs.Calls
import PipelineGraph.Proofs.Cascade
import PipelineGraph.Proofs.Clipboard
import PipelineGraph.Proofs.Closure
import PipelineGraph.Proofs.CommandLine
import PipelineGraph.Proofs.ConnectReport
import PipelineGraph.Proofs.Connection
import PipelineGraph.Proofs.CutPaste
import PipelineGraph.Proofs.DeadNodes
import PipelineGraph.Proofs.Deletion
import PipelineGraph.Proofs.DistinctNames
import PipelineGraph.Proofs.Document
import PipelineGraph.Proofs.Dragging
import PipelineGraph.Proofs.Expression
import PipelineGraph.Proofs.Extension
import PipelineGraph.Proofs.Files
import PipelineGraph.Proofs.FloatOrder
import PipelineGraph.Proofs.FloatText
import PipelineGraph.Proofs.Gestures
import PipelineGraph.Proofs.Graph
import PipelineGraph.Proofs.Integrity
import PipelineGraph.Proofs.JsonDocument
import PipelineGraph.Proofs.JsonNumber
import PipelineGraph.Proofs.JsonText
import PipelineGraph.Proofs.JsonTree
import PipelineGraph.Proofs.LiveSelection
import PipelineGraph.Proofs.Marquee
import PipelineGraph.Proofs.Modal
import PipelineGraph.Proofs.Naming
import PipelineGraph.Proofs.Neighbours
import PipelineGraph.Proofs.NewDocument
import PipelineGraph.Proofs.NewNames
import PipelineGraph.Proofs.Notification
import PipelineGraph.Proofs.NumberReading
import PipelineGraph.Proofs.NumberText
import PipelineGraph.Proofs.OrderedMap
import PipelineGraph.Proofs.Paste
import PipelineGraph.Proofs.PasteReport
import PipelineGraph.Proofs.PasteUndo
import PipelineGraph.Proofs.Payload
import PipelineGraph.Proofs.PointerFrame
import PipelineGraph.Proofs.PortIndex
import PipelineGraph.Proofs.Ports
import PipelineGraph.Proofs.Purge
import PipelineGraph.Proofs.Reachability
import PipelineGraph.Proofs.Recognition
import PipelineGraph.Proofs.Reload
import PipelineGraph.Proofs.Removal
import PipelineGraph.Proofs.ReportDependence
import PipelineGraph.Proofs.ReportText
import PipelineGraph.Proofs.Resolution
import PipelineGraph.Proofs.RonDocument
import PipelineGraph.Proofs.RonText
import PipelineGraph.Proofs.RonTree
import PipelineGraph.Proofs.Rounding
import PipelineGraph.Proofs.Scan
import PipelineGraph.Proofs.Search
import PipelineGraph.Proofs.Selection
import PipelineGraph.Proofs.SettingsText
import PipelineGraph.Proofs.ShortestDigits
import PipelineGraph.Proofs.SuffixSearch
import PipelineGraph.Proofs.Supply
import PipelineGraph.Proofs.UniqueIds
import PipelineGraph.Proofs.Uuid
import PipelineGraph.Proofs.Validation
import PipelineGraph.Record
import PipelineGraph.Ron.Basic
import PipelineGraph.Ron.Decode
import PipelineGraph.Ron.Number
import PipelineGraph.Ron.Parser
import PipelineGraph.Ron.Text
import PipelineGraph.Selection.Basic
import PipelineGraph.Selection.Deletion
import PipelineGraph.Settings
import PipelineGraph.Settings.Text
import PipelineGraph.Text.Blank
import PipelineGraph.Text.Identifier
import PipelineGraph.Text.Path
import PipelineGraph.Text.Ranges
import PipelineGraph.Text.Reader
import PipelineGraph.Text.Visible
import PipelineGraph.Uuid
import PipelineGraph.Validation.Expression
import PipelineGraph.Validation.Issue
import PipelineGraph.Validation.Report
