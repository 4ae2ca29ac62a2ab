import ClientGen.Command.Arguments
import ClientGen.Command.Completion
import ClientGen.Command.Error
import ClientGen.Command.FileSystem
import ClientGen.Command.FileTree
import ClientGen.Command.Generate
import ClientGen.Command.Libraries
import ClientGen.Command.Run
import ClientGen.Command.Settings
import ClientGen.Document.Json.Cursor
import ClientGen.Document.Json.Error
import ClientGen.Document.Json.Reader
import ClientGen.Document.Json.Scalar
import ClientGen.Document.Reader
import ClientGen.Document.Record
import ClientGen.Document.Value
import ClientGen.Document.Yaml.Cursor
import ClientGen.Document.Yaml.Datum
import ClientGen.Document.Yaml.Node
import ClientGen.Document.Yaml.Property
import ClientGen.Document.Yaml.Reader
import ClientGen.Document.Yaml.Scalar
import ClientGen.Document.Yaml.Scanner
import ClientGen.Document.Yaml.Token
import ClientGen.File.Basic
import ClientGen.File.Declaration
import ClientGen.File.Documentation
import ClientGen.File.Import
import ClientGen.File.Mark
import ClientGen.File.Method
import ClientGen.Generation.ClassFile
import ClientGen.Generation.Diagnostic
import ClientGen.Generation.Failure
import ClientGen.Generation.Options
import ClientGen.Generation.Run
import ClientGen.Main
import ClientGen.Module.Path
import ClientGen.Number.Decimal
import ClientGen.Number.Double
import ClientGen.Number.Shortest
import ClientGen.Options.Channel
import ClientGen.Options.Exposure
import ClientGen.Options.Package
import ClientGen.Options.Version
import ClientGen.Program.Decode
import ClientGen.Program.Encode
import ClientGen.Program.Model
import ClientGen.Program.Reader
import ClientGen.Program.References
import ClientGen.Program.Tags
import ClientGen.Proofs.Command.Actions
import ClientGen.Proofs.Command.Components
import ClientGen.Proofs.Command.Containment
import ClientGen.Proofs.Command.Failure
import ClientGen.Proofs.Command.Tree
import ClientGen.Proofs.File.DistinctNames
import ClientGen.Proofs.File.Documentation
import ClientGen.Proofs.File.Forwarding
import ClientGen.Proofs.File.ImportLine
import ClientGen.Proofs.File.ImportSyntax
import ClientGen.Proofs.File.ImportText
import ClientGen.Proofs.File.Omission
import ClientGen.Proofs.File.Parameters
import ClientGen.Proofs.File.ReadImports
import ClientGen.Proofs.File.Signatures
import ClientGen.Proofs.File.TypeAlias
import ClientGen.Proofs.Generation.Accounting
import ClientGen.Proofs.Generation.Composition
import ClientGen.Proofs.Generation.Edit
import ClientGen.Proofs.Generation.ImportOrder
import ClientGen.Proofs.Generation.Imports
import ClientGen.Proofs.Generation.Known
import ClientGen.Proofs.Generation.Lossless
import ClientGen.Proofs.Generation.Names
import ClientGen.Proofs.Generation.Offers
import ClientGen.Proofs.Generation.Outline
import ClientGen.Proofs.Generation.Parity
import ClientGen.Proofs.Generation.Paths
import ClientGen.Proofs.Generation.Reports
import ClientGen.Proofs.Generation.RuntimeImports
import ClientGen.Proofs.Generation.UnknownTypes
import ClientGen.Proofs.Generation.UnsafeHomes
import ClientGen.Proofs.Module.Climbing
import ClientGen.Proofs.Module.Normal
import ClientGen.Proofs.Module.PythonImport
import ClientGen.Proofs.Module.Route
import ClientGen.Proofs.Program.Focus
import ClientGen.Proofs.Program.Parts
import ClientGen.Proofs.Program.Reading
import ClientGen.Proofs.Program.Renaming
import ClientGen.Proofs.Program.RoundTrip
import ClientGen.Proofs.Program.Slots
import ClientGen.Proofs.Program.Tolerance
import ClientGen.Proofs.Resolution.AliasSearch
import ClientGen.Proofs.Resolution.Class
import ClientGen.Proofs.Resolution.Exports
import ClientGen.Proofs.Resolution.Fresh
import ClientGen.Proofs.Resolution.Graph
import ClientGen.Proofs.Resolution.Isolation
import ClientGen.Proofs.Resolution.Names
import ClientGen.Proofs.Resolution.Reachability
import ClientGen.Proofs.Resolution.Sequence
import ClientGen.Proofs.Resolution.Worklist
import ClientGen.Proofs.Sorted
import ClientGen.Proofs.Target.Alternative
import ClientGen.Proofs.Target.Identifiers
import ClientGen.Proofs.Target.MemberName
import ClientGen.Proofs.Target.Nullable
import ClientGen.Proofs.Target.PythonModule
import ClientGen.Proofs.Target.PythonString
import ClientGen.Proofs.Target.Quoting
import ClientGen.Proofs.Target.ReadText
import ClientGen.Proofs.Target.ReadType
import ClientGen.Proofs.Target.Spelling
import ClientGen.Proofs.Target.StringLiteral
import ClientGen.Proofs.Text.Items
import ClientGen.Proofs.Text.Occurrence
import ClientGen.Proofs.Text.Pieces
import ClientGen.Proofs.Text.Separators
import ClientGen.Proofs.Text.Split
import ClientGen.Proofs.Text.Symbols
import ClientGen.Proofs.Text.Trim
import ClientGen.Render.Basic
import ClientGen.Render.Dart
import ClientGen.Render.Language
import ClientGen.Render.Python
import ClientGen.Render.Typescript
import ClientGen.Resolution.Class
import ClientGen.Resolution.Closure
import ClientGen.Resolution.Fresh
import ClientGen.Resolution.Graph
import ClientGen.Resolution.Scope
import ClientGen.Sorted
import ClientGen.Target.Language
import ClientGen.Target.Literal
import ClientGen.Target.Naming
import ClientGen.Target.Reserved
import ClientGen.Target.TypeText
import ClientGen.Text.Digits
import ClientGen.Text.Identifier
import ClientGen.Text.LowerCase
import ClientGen.Text.Printable
import ClientGen.Text.Quoted
import ClientGen.Text.Whitespace
