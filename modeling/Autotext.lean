import Autotext.Text.Table
import Autotext.Text.Blank
import Autotext.Text.CaseMap
import Autotext.Text.Case
import Autotext.Text.Category
import Autotext.Text.Fold
import Autotext.Text.Property
import Autotext.Text.Script
import Autotext.Number.Binary
import Autotext.Number.Shortest
import Autotext.Number.Fixed
import Autotext.Number.Read
import Autotext.Calendar.Date
import Autotext.Calendar.Instant
import Autotext.Calendar.Pattern
import Autotext.Calendar.Relative
import Autotext.Calendar.Reading
import Autotext.Text.Segment
import Autotext.Text.Letter
import Autotext.Regex.Ranges
import Autotext.Regex.Ast
import Autotext.Regex.Parse
import Autotext.Regex.Hir
import Autotext.Regex.Property
import Autotext.Regex.Translate
import Autotext.Regex.Size
import Autotext.Regex.Machine
import Autotext.Regex.Pattern
import Autotext.Number.Whole
import Autotext.Number.Text
import Autotext.Value.Basic
import Autotext.Value.FileFacts
import Autotext.Expr.Token
import Autotext.Expr.Chain
import Autotext.Text.Search
import Autotext.Value.Methods
import Autotext.Expr.Eval
import Autotext.Marker.Basic
import Autotext.Marker.Scan
import Autotext.Header.Basic
import Autotext.Header.Write
import Autotext.Refresh
import Autotext.Problem
import Autotext.Config.Catalog
import Autotext.Config.Toml
import Autotext.Config.Basic
import Autotext.Project.Path
import Autotext.Project.Glob
import Autotext.Project.Ignore
import Autotext.Project.Tree
import Autotext.Project.Scan
import Autotext.Project.Update
import Autotext.Diff.Myers
import Autotext.Diff.Compact
import Autotext.Cli.Style
import Autotext.Cli.Wrap
import Autotext.Cli.Log
import Autotext.Cli.Grammar
import Autotext.Cli.Args
import Autotext.Cli.Report
import Autotext.Cli.Events
import Autotext.Cli.Run
import Autotext.Main
import Autotext.Proofs.ScanPieces
import Autotext.Proofs.Splice
import Autotext.Proofs.OpeningMarker
import Autotext.Proofs.MarkerFormat
import Autotext.Proofs.RefreshParts
import Autotext.Proofs.LocalRewrite
import Autotext.Proofs.HeaderLines
import Autotext.Proofs.FrozenRegion
import Autotext.Proofs.HeaderRewrite
import Autotext.Proofs.SecondPass
import Autotext.Proofs.HeaderReadBack
import Autotext.Proofs.SpliceBounds
import Autotext.Expr.Write
import Autotext.Proofs.ChainRoundTrip
import Autotext.Proofs.CatalogCheck
import Autotext.Proofs.CheckUpdate
import Autotext.Proofs.ScanLayout
import Autotext.Proofs.ReportOrder
import Autotext.Proofs.RelativeSymmetry
import Autotext.Proofs.CallArguments
import Autotext.Proofs.IsoDates
import Autotext.Proofs.WholeDoubles
import Autotext.Proofs.RelativeIndices
import Autotext.Proofs.LongestMatch
