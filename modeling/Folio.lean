import Folio.Config
import Folio.Config.Reader
import Folio.Dict
import Folio.Discovery
import Folio.FileTree
import Folio.Function
import Folio.IoError
import Folio.Json.Basic
import Folio.Json.Reader
import Folio.Json.Writer
import Folio.Number.Integral
import Folio.Number.Layout
import Folio.Number.Shortest
import Folio.Number.Word
import Folio.Path
import Folio.Sink
import Folio.Site.Build
import Folio.Site.Bundle
import Folio.Site.Error
import Folio.Site.Event
import Folio.Site.Renderer
import Folio.Template.Arguments
import Folio.Template.Calls
import Folio.Template.Compiled
import Folio.Template.Error
import Folio.Template.Escape
import Folio.Template.Eval
import Folio.Template.Filter
import Folio.Template.Lines
import Folio.Template.Machine
import Folio.Template.Parser
import Folio.Template.Scope
import Folio.Template.Spelling
import Folio.Template.Steps
import Folio.Template.Syntax
import Folio.Template.Test
import Folio.Template.Token
import Folio.Template.Undefined
import Folio.Template.Value.Access
import Folio.Template.Value.Basic
import Folio.Template.Value.Expand
import Folio.Template.Value.Json
import Folio.Template.Value.Operator
import Folio.Template.Value.Order
import Folio.Template.Value.Text
import Folio.Text.Case
import Folio.Text.CaseTable
import Folio.Text.Letter
import Folio.Text.LetterTable
import Folio.Text.Pieces
import Folio.Text.PrintableTable
import Folio.Text.Quoted
import Folio.Token
import Folio.View
import Folio.View.Reader
import Folio.Yaml.Cursor
import Folio.Yaml.Node
import Folio.Yaml.Property
import Folio.Yaml.Scalar.Basic
import Folio.Yaml.Scalar.Block
import Folio.Yaml.Scalar.Plain
import Folio.Yaml.Scalar.Quoted
import Folio.Yaml.Token
import Folio.Proofs.Delivery
import Folio.Proofs.Run
import Folio.Proofs.Settings
import Folio.Proofs.Snapshot
import Folio.Proofs.FirstUse
import Folio.Proofs.Callees
import Folio.Proofs.ExprCallees
import Folio.Proofs.StmtCallees
import Folio.Proofs.TagScan
import Folio.Proofs.TagBoundaries
import Folio.Proofs.TagCalls
import Folio.Proofs.Sections
import Folio.Proofs.Unresolved
import Folio.Proofs.Composition
import Folio.Proofs.AntiForgery
import Folio.Proofs.ByteOrder
import Folio.Proofs.PathSteps
import Folio.Proofs.DiscoveryOrder
import Folio.Proofs.Relisting
import Folio.Proofs.Winner
import Folio.Proofs.NamesInFront
import Folio.Proofs.ExprFronts
import Folio.Proofs.StmtFronts
import Folio.Proofs.Decoys
import Folio.Proofs.TidyScan
import Folio.Proofs.FalseAlarms
import Folio.Proofs.TemplateOrders
import Folio.Proofs.BuildCount
import Folio.Proofs.Collisions
import Folio.Proofs.Bundles
import Folio.Proofs.Queries
import Folio.Proofs.Reports
import Folio.Proofs.Walks
import Folio.Proofs.Respelling
import Folio.Proofs.TemplateNames
import Folio.Proofs.NameCheck
import Folio.Proofs.Maps
import Folio.Proofs.NewFragment
import Folio.Proofs.BuildLog
import Folio.Proofs.TemplateCount
import Folio.Proofs.TagPieces
import Folio.Proofs.ScanBytes
import Folio.Proofs.OptionEntries
import Folio.Proofs.Records
import Folio.Proofs.ViewJson
import Folio.Proofs.FormErrors
import Folio.Proofs.Registries
import Folio.Proofs.TextPlaces
import Folio.Proofs.CheckedBody
import Folio.Proofs.CheckedScan
