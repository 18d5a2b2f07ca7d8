import ChartGuide.Arrow
import ChartGuide.Catalog
import ChartGuide.Compilation
import ChartGuide.Digraph.Basic
import ChartGuide.Digraph.Search
import ChartGuide.Draft.Basic
import ChartGuide.Draft.Settle
import ChartGuide.Event
import ChartGuide.Finding
import ChartGuide.Flow.Basic
import ChartGuide.Flow.Export
import ChartGuide.Layout
import ChartGuide.Line
import ChartGuide.Main
import ChartGuide.Prior
import ChartGuide.Proofs.Draft.Statements
import ChartGuide.Proofs.Occurrences
import ChartGuide.Proofs.Table
import ChartGuide.Proofs.Text.Trim
import ChartGuide.Role
import ChartGuide.Session
import ChartGuide.Settings
import ChartGuide.Shape
import ChartGuide.Table
import ChartGuide.Tally
import ChartGuide.Text.Blank
import ChartGuide.Text.CodePoints
import ChartGuide.Text.Column
import ChartGuide.Text.Cut
import ChartGuide.Text.Printable
import ChartGuide.Text.Quoted
import ChartGuide.Text.Word
import ChartGuide.Token
import ChartGuide.Topic
import ChartGuide.Tour
import ChartGuide.Trace
import ChartGuide.Value
import ChartGuide.Workbench
import ChartGuide.Proofs.Draft.Records
import ChartGuide.Proofs.Flow.Choices
import ChartGuide.Proofs.Line
import ChartGuide.Proofs.Shape
import ChartGuide.Proofs.Flow.WellFormed
import ChartGuide.Proofs.Arrow
import ChartGuide.Proofs.Sketch.Basic
import ChartGuide.Proofs.Sketch.RoundTrip
import ChartGuide.Proofs.Digraph.Paths
import ChartGuide.Proofs.Digraph.Search
import ChartGuide.Proofs.Digraph.Cycles
import ChartGuide.Proofs.Digraph.Rooted
import ChartGuide.Proofs.Digraph.Depth
import ChartGuide.Proofs.Digraph.Layers
import ChartGuide.Proofs.Layout
import ChartGuide.Proofs.Catalog
import ChartGuide.Proofs.Session
import ChartGuide.Proofs.Flow.Roles
import ChartGuide.Proofs.Flow.Export
import ChartGuide.Proofs.Session.Way
import ChartGuide.Proofs.Digraph.Reach
import ChartGuide.Proofs.Session.Interleaving
import ChartGuide.Proofs.Session.Visits
import ChartGuide.Proofs.Token.Readings
import ChartGuide.Proofs.Token.Parting
import ChartGuide.Proofs.Token.Columns
import ChartGuide.Proofs.Token.Declaration
import ChartGuide.Proofs.Token.Partition
import ChartGuide.Proofs.Token.NodeText
import ChartGuide.Proofs.Line.Arrows
import ChartGuide.Proofs.Line.Directives
import ChartGuide.Proofs.Line.StyleClass
import ChartGuide.Proofs.Draft.DeclaredEdge
import ChartGuide.Proofs.Draft.SkippedLines
import ChartGuide.Proofs.Draft.Continued
import ChartGuide.Proofs.Draft.Reordered
import ChartGuide.Proofs.Trace
import ChartGuide.Proofs.Finding
import ChartGuide.Proofs.Finding.Traps
import ChartGuide.Proofs.Layout.Connected
import ChartGuide.Proofs.Session.Links
import ChartGuide.Proofs.Finding.LinkReports
import ChartGuide.Proofs.Session.Bookkeeping
import ChartGuide.Proofs.Session.DeadEnds
import ChartGuide.Proofs.Session.Extension
import ChartGuide.Proofs.Workbench
import ChartGuide.Proofs.Token.Maximal
import ChartGuide.Proofs.Token.Idle
import ChartGuide.Proofs.Draft.Terminated
import ChartGuide.Proofs.Digraph.Projection
import ChartGuide.Proofs.Draft.Settling
import ChartGuide.Proofs.Text.Places
import ChartGuide.Proofs.Shape.Closing
