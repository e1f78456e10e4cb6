import ControlFlow.Association
import ControlFlow.CommandLine.Reading
import ControlFlow.CommandLine.Request
import ControlFlow.CommandLine.Run
import ControlFlow.CommandLine.Word
import ControlFlow.Document
import ControlFlow.Failure
import ControlFlow.Files
import ControlFlow.Graph
import ControlFlow.Graph.Arena
import ControlFlow.Graph.Build
import ControlFlow.Graph.Dot
import ControlFlow.Graph.Dot.Sheet
import ControlFlow.Graph.Handling
import ControlFlow.Graph.Multigraph
import ControlFlow.Graph.Thread
import ControlFlow.Graph.Verify
import ControlFlow.Graph.Wire
import ControlFlow.Json.Integer
import ControlFlow.Json.Reader
import ControlFlow.Json.Text
import ControlFlow.Json.Value
import ControlFlow.Json.Writer
import ControlFlow.Location
import ControlFlow.Log
import ControlFlow.Main
import ControlFlow.Metadata
import ControlFlow.Number.Double
import ControlFlow.Number.Shortest
import ControlFlow.Path
import ControlFlow.Proofs.CommandLine.Delivery
import ControlFlow.Proofs.CommandLine.Ending
import ControlFlow.Proofs.CommandLine.Limit
import ControlFlow.Proofs.Component
import ControlFlow.Proofs.Discovery
import ControlFlow.Proofs.Dot.Drawing
import ControlFlow.Proofs.Dot.Escape
import ControlFlow.Proofs.Dot.Reading
import ControlFlow.Proofs.Dot.Sheet
import ControlFlow.Proofs.Files
import ControlFlow.Proofs.Files.Tree
import ControlFlow.Proofs.Graph.Arena
import ControlFlow.Proofs.Graph.Complete
import ControlFlow.Proofs.Graph.Complexity
import ControlFlow.Proofs.Graph.Connected
import ControlFlow.Proofs.Graph.Contents
import ControlFlow.Proofs.Graph.Cycle
import ControlFlow.Proofs.Graph.Diagnostics
import ControlFlow.Proofs.Graph.Findings
import ControlFlow.Proofs.Graph.Flow
import ControlFlow.Proofs.Graph.Frontier
import ControlFlow.Proofs.Graph.Layout
import ControlFlow.Proofs.Graph.Numbering
import ControlFlow.Proofs.Graph.Place
import ControlFlow.Proofs.Graph.Placeholder
import ControlFlow.Proofs.Graph.Preorder
import ControlFlow.Proofs.Graph.Region
import ControlFlow.Proofs.Graph.Shift
import ControlFlow.Proofs.Graph.Skeleton
import ControlFlow.Proofs.Graph.Successor
import ControlFlow.Proofs.Graph.Table
import ControlFlow.Proofs.Graph.Trace
import ControlFlow.Proofs.Graph.Union
import ControlFlow.Proofs.Graph.Verify
import ControlFlow.Proofs.Graph.Wire
import ControlFlow.Proofs.Json.Fuel
import ControlFlow.Proofs.Json.Legible
import ControlFlow.Proofs.Json.Reader
import ControlFlow.Proofs.Reach
import ControlFlow.Proofs.Scan
import ControlFlow.Proofs.Session
import ControlFlow.Proofs.Settings.Keys
import ControlFlow.Proofs.Settings.Loading
import ControlFlow.Proofs.Source.Faithful
import ControlFlow.Proofs.Source.Filled
import ControlFlow.Proofs.Source.Visible
import ControlFlow.Proofs.Summary.CallGraph
import ControlFlow.Proofs.Summary.Callee
import ControlFlow.Proofs.Summary.Calls
import ControlFlow.Proofs.Summary.Counting
import ControlFlow.Proofs.Summary.Explain
import ControlFlow.Proofs.Summary.Exterior
import ControlFlow.Proofs.Summary.Measures
import ControlFlow.Proofs.Summary.Recursion
import ControlFlow.Proofs.Text.Utf8
import ControlFlow.Proofs.Walk
import ControlFlow.Proofs.Wire.Body
import ControlFlow.Proofs.Wire.Encode
import ControlFlow.Proofs.Wire.Fault
import ControlFlow.Proofs.Wire.Malformed
import ControlFlow.Reach
import ControlFlow.Scan
import ControlFlow.Session
import ControlFlow.Settings
import ControlFlow.Source.Expr
import ControlFlow.Source.Expr.Formals
import ControlFlow.Source.Expr.Parse
import ControlFlow.Source.Expr.Quote
import ControlFlow.Source.Expr.Render
import ControlFlow.Source.Expr.Target
import ControlFlow.Source.Literal
import ControlFlow.Source.Literal.Escape
import ControlFlow.Source.Literal.Formatted
import ControlFlow.Source.Literal.Number
import ControlFlow.Source.Parser
import ControlFlow.Source.Pattern
import ControlFlow.Source.Stmt
import ControlFlow.Source.Stmt.Lower
import ControlFlow.Source.Stmt.Parse
import ControlFlow.Source.Stmt.Render
import ControlFlow.Source.Token
import ControlFlow.Source.Token.Number
import ControlFlow.Source.Token.Scan
import ControlFlow.Statement
import ControlFlow.Statement.Wire
import ControlFlow.Summary
import ControlFlow.Summary.CallGraph
import ControlFlow.Summary.Callee
import ControlFlow.Summary.Counting
import ControlFlow.Summary.Explain
import ControlFlow.Summary.Metrics
import ControlFlow.Text.Blank
import ControlFlow.Text.Combining
import ControlFlow.Text.Composition
import ControlFlow.Text.Decomposition
import ControlFlow.Text.Digit
import ControlFlow.Text.HexTable
import ControlFlow.Text.Identifier
import ControlFlow.Text.Line
import ControlFlow.Text.NormalForm
import ControlFlow.Text.Printable
import ControlFlow.Text.Quoted
import ControlFlow.Text.Ranges
import ControlFlow.Text.Utf8
import ControlFlow.Text.Word
