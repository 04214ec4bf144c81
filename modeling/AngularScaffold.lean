import AngularScaffold.Angular.Delivery
import AngularScaffold.Angular.EnumTable
import AngularScaffold.Angular.Generation
import AngularScaffold.Angular.Property
import AngularScaffold.Angular.PropertyError
import AngularScaffold.Angular.Resolution
import AngularScaffold.Angular.Shape
import AngularScaffold.Angular.Source
import AngularScaffold.Angular.Step
import AngularScaffold.Angular.WellKnown
import AngularScaffold.Command.Arguments
import AngularScaffold.Command.Report
import AngularScaffold.Command.Run
import AngularScaffold.Decimal.Binary
import AngularScaffold.Decimal.Layout
import AngularScaffold.Decimal.Shortest
import AngularScaffold.Decimal.Text
import AngularScaffold.Document.Cursor
import AngularScaffold.Document.Decode
import AngularScaffold.Document.Json.Number
import AngularScaffold.Document.Json.Reader
import AngularScaffold.Document.Json.Text
import AngularScaffold.Document.Node
import AngularScaffold.Document.Position
import AngularScaffold.Document.Problem
import AngularScaffold.Document.Toml.Reader
import AngularScaffold.Document.Toml.Scalar
import AngularScaffold.Document.Toml.Table
import AngularScaffold.Document.Toml.Text
import AngularScaffold.Expression.Identifiers
import AngularScaffold.Files.Disk
import AngularScaffold.Files.Path
import AngularScaffold.Files.Tree
import AngularScaffold.Layout.Draft
import AngularScaffold.Main
import AngularScaffold.Manifest.Basic
import AngularScaffold.Manifest.Error
import AngularScaffold.Manifest.Load
import AngularScaffold.Manifest.Locate
import AngularScaffold.Manifest.Read
import AngularScaffold.Manifest.Schema
import AngularScaffold.Manifest.Validate
import AngularScaffold.Naming.FileStem
import AngularScaffold.Naming.Identifier
import AngularScaffold.Naming.Kebab
import AngularScaffold.OrderedMap
import AngularScaffold.Proofs.Except
import AngularScaffold.Proofs.Manifest.Checked
import AngularScaffold.Proofs.Naming.StemCharacters
import AngularScaffold.Proofs.Text.ByteOrder
import AngularScaffold.Proofs.TypeScript.ImportTable
import AngularScaffold.Text.Bytes
import AngularScaffold.Text.Quoted
import AngularScaffold.TypeScript.CodeFile
import AngularScaffold.TypeScript.ImportTable
import AngularScaffold.TypeScript.Literal
import AngularScaffold.Unicode.Alphabetic
import AngularScaffold.Unicode.Case
import AngularScaffold.Unicode.Numeric
import AngularScaffold.Unicode.Printable
import AngularScaffold.Unicode.Ranges
import AngularScaffold.Unicode.Whitespace
import AngularScaffold.Value.Basic
import AngularScaffold.Value.Json
import AngularScaffold.Proofs.Angular.Subjects
import AngularScaffold.Proofs.Angular.Resolves
import AngularScaffold.Proofs.Angular.Paths
import AngularScaffold.Proofs.Angular.Imports
import AngularScaffold.Proofs.Angular.Links
import AngularScaffold.Proofs.Angular.Bindings
import AngularScaffold.Proofs.TypeScript.ReadBack
import AngularScaffold.Proofs.Angular.PropertyText
import AngularScaffold.Proofs.Expression.Scan
import AngularScaffold.Proofs.Angular.PropertyScan
import AngularScaffold.Proofs.Files.JoinedPath
import AngularScaffold.Proofs.Files.SoundTree
import AngularScaffold.Proofs.Angular.SavedFiles
import AngularScaffold.Proofs.Angular.Deliveries
import AngularScaffold.Proofs.Manifest.Violations
import AngularScaffold.Proofs.TypeScript.PlainText
import AngularScaffold.Proofs.TypeScript.ImportLines
import AngularScaffold.Proofs.Angular.PropertyNames
import AngularScaffold.Proofs.Angular.Agreement
import AngularScaffold.Proofs.Angular.DeclarationOrder
import AngularScaffold.Proofs.Angular.RouteTable
import AngularScaffold.Proofs.Angular.AddedClass
import AngularScaffold.Proofs.Document.JsonNumber
import AngularScaffold.Proofs.Document.JsonText
import AngularScaffold.Proofs.Value.Nested
import AngularScaffold.Proofs.Document.JsonReader
import AngularScaffold.Proofs.Document.DecodedValue
import AngularScaffold.Proofs.Document.JsonRoundTrip
import AngularScaffold.Proofs.Command.Invocations
import AngularScaffold.Proofs.Command.Rehearsals
import AngularScaffold.Proofs.Command.FirstManifest
import AngularScaffold.Proofs.Angular.Indentation
import AngularScaffold.Proofs.Angular.NestedBlocks
import AngularScaffold.Proofs.Expression.Tokens
import AngularScaffold.Proofs.Expression.Fillers
import AngularScaffold.Proofs.Value.References
import AngularScaffold.Proofs.Angular.EnumMembers
import AngularScaffold.Proofs.Angular.Refusals
import AngularScaffold.Proofs.Naming.KebabDashes
import AngularScaffold.Proofs.Text.ByteSplits
import AngularScaffold.Proofs.Naming.FileStems
import AngularScaffold.Proofs.Angular.LeadingNames
import AngularScaffold.Proofs.Document.TomlSections
import AngularScaffold.Proofs.Manifest.KeyPlaces
import AngularScaffold.Proofs.Manifest.DeclaringHeaders
import AngularScaffold.Proofs.Manifest.Redeclared
import AngularScaffold.Proofs.Document.LinePositions
import AngularScaffold.Proofs.Document.CoveredBytes
import AngularScaffold.Proofs.Manifest.KeySearch
import AngularScaffold.Proofs.Manifest.NameLabels
import AngularScaffold.Proofs.TypeScript.CollectedUses
