import PageTree.Builtin.Declared
import PageTree.Builtin.Image
import PageTree.Builtin.Library
import PageTree.Builtin.Post
import PageTree.CommandLine.Arguments
import PageTree.CommandLine.Basic
import PageTree.Config.Basic
import PageTree.Config.Check
import PageTree.Config.File
import PageTree.Content
import PageTree.Context
import PageTree.Definition.Basic
import PageTree.Definition.Tag
import PageTree.Fault
import PageTree.Files
import PageTree.Image.Chain
import PageTree.Image.Responsive
import PageTree.Json.Basic
import PageTree.Json.Printer
import PageTree.Json.Reader
import PageTree.Main
import PageTree.Markup.Element
import PageTree.Markup.Entity
import PageTree.Markup.EntityTable
import PageTree.Markup.Node
import PageTree.Markup.Token
import PageTree.Node.Basic
import PageTree.Node.Builder
import PageTree.Number.Binary
import PageTree.Number.Decimal
import PageTree.Number.Numeral
import PageTree.Proofs.Builtin.Idempotence
import PageTree.Proofs.Image.Responsive
import PageTree.Proofs.Node.Measure
import PageTree.Proofs.Resolution.Bound
import PageTree.Proofs.Resolution.Children
import PageTree.Proofs.Resolution.Failure
import PageTree.Proofs.Resolution.FixedPoint
import PageTree.Proofs.Resolution.Idempotence
import PageTree.Proofs.Resolution.Observation
import PageTree.Proofs.Resolution.Place
import PageTree.Proofs.Resolution.Report
import PageTree.Proofs.Resolution.Room
import PageTree.Proofs.Resolution.Round
import PageTree.Proofs.Resolution.Rules
import PageTree.Proofs.Resolution.Settled
import PageTree.Proofs.Resolution.Siblings
import PageTree.Proofs.Value.Entries
import PageTree.Proofs.Value.Mapping
import PageTree.Proofs.Value.Overlay
import PageTree.Proofs.Value.Quantity
import PageTree.Proofs.Value.Same
import PageTree.Registry.Basic
import PageTree.Registry.Configured
import PageTree.Registry.Declaration
import PageTree.Registry.Fault
import PageTree.Registry.Library
import PageTree.Registry.Loading
import PageTree.Registry.Shelf
import PageTree.Resolution.Record
import PageTree.Resolution.Resolver
import PageTree.Resolution.Trace
import PageTree.Service.Basic
import PageTree.Service.Request
import PageTree.Settings
import PageTree.Site.Basic
import PageTree.Site.Page
import PageTree.Text.Blank
import PageTree.Text.Case
import PageTree.Text.CaseTable
import PageTree.Text.Digit
import PageTree.Text.DigitTable
import PageTree.Text.Percent
import PageTree.Text.PrintableTable
import PageTree.Text.Quoted
import PageTree.Text.Utf8
import PageTree.Url.Basic
import PageTree.Url.Query
import PageTree.Validation.Declaration
import PageTree.Validation.Finding
import PageTree.Validation.Tree
import PageTree.Value.Basic
import PageTree.Value.Convert
import PageTree.Value.Display
import PageTree.Value.Equality
import PageTree.Wire.Key
import PageTree.Wire.Tree
import PageTree.Yaml.Cursor
import PageTree.Yaml.Document
import PageTree.Yaml.Scalar
import PageTree.Yaml.Token
import PageTree.Proofs.Resolution.Steps
import PageTree.Proofs.Resolution.Agreement
import PageTree.Proofs.Wire.Form
import PageTree.Proofs.Wire.Collision
import PageTree.Proofs.Wire.Fragment
import PageTree.Proofs.Wire.Member
import PageTree.Proofs.Wire.Same
import PageTree.Proofs.Validation.Declaration
import PageTree.Proofs.Registry.Table
import PageTree.Proofs.Registry.Filling
import PageTree.Proofs.Registry.Declared
import PageTree.Proofs.Registry.Supply
import PageTree.Proofs.Registry.Loading
import PageTree.Proofs.Files
import PageTree.Proofs.Registry.Directories
import PageTree.Proofs.Registry.Leftovers
import PageTree.Proofs.Registry.History
import PageTree.Proofs.Registry.Groups
import PageTree.Proofs.Registry.Documentation
import PageTree.Proofs.Registry.Stocked
import PageTree.Proofs.Resolution.Depth
import PageTree.Proofs.Resolution.Fragment
import PageTree.Proofs.Resolution.Selection
import PageTree.Proofs.Resolution.Lookup
import PageTree.Proofs.Resolution.Invariant
import PageTree.Proofs.Resolution.Writable
import PageTree.Proofs.Validation.Tree
import PageTree.Proofs.Json.Writable
import PageTree.Proofs.Wire.Writable
import PageTree.Proofs.Text.Percent
import PageTree.Proofs.Text.Blank
import PageTree.Proofs.Site.Path
import PageTree.Proofs.Markup.Escape
import PageTree.Proofs.Markup.Node
import PageTree.Proofs.Builtin.Article
import PageTree.Proofs.Builtin.Body
import PageTree.Proofs.Builtin.Fields
import PageTree.Proofs.Service.Form
import PageTree.Proofs.Service.Redirect
import PageTree.Proofs.Service.Article
import PageTree.Proofs.Service.Body
import PageTree.Proofs.Service.Document
import PageTree.Proofs.Service.Description
import PageTree.Proofs.Service.Types
import PageTree.Proofs.CommandLine.Session
import PageTree.Proofs.CommandLine.Resolve
import PageTree.Proofs.Wire.Recase
import PageTree.Proofs.Node.Full
import PageTree.Proofs.Resolution.Full
import PageTree.Proofs.Builtin.Full
import PageTree.Proofs.Resolution.EmptyText
import PageTree.Proofs.Context.Scopes
import PageTree.Proofs.Config.Merge
import PageTree.Proofs.Config.Schema
import PageTree.Proofs.Config.Usable
import PageTree.Proofs.Definition.Tag
import PageTree.Proofs.Resolution.Data
import PageTree.Proofs.Node.Storage
import PageTree.Proofs.Node.Builder
import PageTree.Proofs.Image.Chain
import PageTree.Proofs.Image.Operation
import PageTree.Proofs.Image.Density
import PageTree.Proofs.Url.Solid
import PageTree.Proofs.Image.Candidates
