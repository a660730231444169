import PanelProbe.Text.Blank
import PanelProbe.Http.Outcome
import PanelProbe.Json.Printer
import PanelProbe.Calendar.Instant
import PanelProbe.Scenario.Canonical
import PanelProbe.Run.Basic
import PanelProbe.Run.Script
import PanelProbe.Report.File
import PanelProbe.Report.Printed
import PanelProbe.Http.Network
import PanelProbe.Config.File
import PanelProbe.Command.Perform
import PanelProbe.Main
import PanelProbe.Proofs.Scenario.Capture
import PanelProbe.Proofs.Run.Turn
import PanelProbe.Proofs.Run.History
import PanelProbe.Proofs.Run.Deletion
import PanelProbe.Proofs.Run.Exit
import PanelProbe.Proofs.Text.Occurrence
import PanelProbe.Proofs.Run.Ledger
import PanelProbe.Proofs.Percent
import PanelProbe.Proofs.Run.LastStored
import PanelProbe.Proofs.Session.Rendering
import PanelProbe.Proofs.Scenario.Shape
import PanelProbe.Proofs.Run.Provenance
import PanelProbe.Proofs.Run.Echo
import PanelProbe.Proofs.Run.Whole
import PanelProbe.Proofs.Run.Unread
import PanelProbe.Proofs.Http.Headers
import PanelProbe.Proofs.Json.Address
import PanelProbe.Proofs.Run.Bearer
import PanelProbe.Proofs.Run.Login
import PanelProbe.Proofs.Text.Cut
import PanelProbe.Proofs.Url.Segments
import PanelProbe.Proofs.Url.Extension
import PanelProbe.Proofs.Url.Host
import PanelProbe.Proofs.Http.Target
import PanelProbe.Proofs.Run.Target
import PanelProbe.Proofs.Run.Interruption
import PanelProbe.Proofs.Run.Operation
import PanelProbe.Proofs.Run.Renewal
import PanelProbe.Proofs.Run.Conforming
import PanelProbe.Proofs.Scenario.Supply
import PanelProbe.Proofs.Session.Template
import PanelProbe.Proofs.Run.Path
import PanelProbe.Proofs.Text.Numeral
import PanelProbe.Proofs.Storage.Tree
import PanelProbe.Proofs.Storage.Path
import PanelProbe.Proofs.Report.Saving
import PanelProbe.Proofs.Binary64.Range
import PanelProbe.Proofs.Binary64.Decimal
import PanelProbe.Proofs.Json.Number
import PanelProbe.Proofs.Json.Scanning
import PanelProbe.Proofs.Json.Reading
import PanelProbe.Proofs.Report.Reading
import PanelProbe.Proofs.Text.Composition
import PanelProbe.Proofs.Url.Name
import PanelProbe.Proofs.Url.Server
import PanelProbe.Proofs.Config.Endpoint
import PanelProbe.Proofs.Scenario.Identifier
import PanelProbe.Proofs.Run.Frame
import PanelProbe.Proofs.Report.Agreement
import PanelProbe.Proofs.Json.Document
import PanelProbe.Proofs.Scenario.Literal
import PanelProbe.Proofs.Http.Merging
import PanelProbe.Proofs.Session.Verbatim
import PanelProbe.Proofs.Config.Resolution
import PanelProbe.Proofs.Config.Sources
import PanelProbe.Proofs.Session.Segment
import PanelProbe.Proofs.Scenario.Naming
import PanelProbe.Proofs.Calendar.Day
import PanelProbe.Proofs.Calendar.Reading
import PanelProbe.Proofs.Scenario.Window
import PanelProbe.Proofs.Http.Form
import PanelProbe.Proofs.Http.Query
import PanelProbe.Proofs.Json.Location
