import Formwork.Catalog.App
import Formwork.Catalog.Folder
import Formwork.Catalog.Source
import Formwork.Command.Arguments
import Formwork.Command.Outcome
import Formwork.Command.Run
import Formwork.Config.Basic
import Formwork.Config.Load
import Formwork.Console.Cell
import Formwork.Console.Markup
import Formwork.Console.Table
import Formwork.Console.Wrap
import Formwork.Extension.Plugin
import Formwork.Extension.Registry
import Formwork.Files.Access
import Formwork.Files.Path
import Formwork.Files.Tree
import Formwork.Form.Compile
import Formwork.Form.Decode
import Formwork.Form.Field
import Formwork.Form.Resolve
import Formwork.Form.Resolved
import Formwork.Form.Stored
import Formwork.Form.Wire
import Formwork.Idl.Annotation
import Formwork.Idl.Block
import Formwork.Idl.Declaration
import Formwork.Idl.Document
import Formwork.Idl.Scan
import Formwork.Idl.Statement
import Formwork.JsonSchema.Export
import Formwork.JsonSchema.Node
import Formwork.JsonSchema.Violation
import Formwork.Keyed
import Formwork.Main
import Formwork.Moment
import Formwork.Notice
import Formwork.Number.Binary
import Formwork.Number.Decimal
import Formwork.Number.Reading
import Formwork.Pattern.Basic
import Formwork.Pattern.CharName
import Formwork.Pattern.Match
import Formwork.Pattern.Reader
import Formwork.Proofs.Form.Unfolding
import Formwork.Proofs.Form.Wire
import Formwork.Proofs.Idl.Assembly
import Formwork.Proofs.Idl.Declared
import Formwork.Proofs.Idl.Entries
import Formwork.Proofs.Idl.Header
import Formwork.Proofs.Idl.Items
import Formwork.Proofs.Idl.Layout
import Formwork.Proofs.Idl.Lexical
import Formwork.Proofs.Idl.Nesting
import Formwork.Proofs.Idl.Outline
import Formwork.Proofs.Idl.Reading
import Formwork.Proofs.Idl.RoundTrip
import Formwork.Proofs.Idl.Search
import Formwork.Proofs.Idl.Source
import Formwork.Proofs.Keyed
import Formwork.Proofs.Record.Unanswerable
import Formwork.Proofs.Record.Visit
import Formwork.Proofs.Rendering.Validation
import Formwork.Proofs.Text.Blank
import Formwork.Record.Check
import Formwork.Record.Defect
import Formwork.Record.Fence
import Formwork.Record.ImageUrl
import Formwork.Record.Slot
import Formwork.Record.Write
import Formwork.Rendering.Form
import Formwork.Store.Basic
import Formwork.Store.Sync
import Formwork.Text.Blank
import Formwork.Text.Bytes
import Formwork.Text.Case
import Formwork.Text.Digit
import Formwork.Text.Fold
import Formwork.Text.Identifier
import Formwork.Text.Naming
import Formwork.Text.Printable
import Formwork.Text.Quoted
import Formwork.Text.Table
import Formwork.Text.Word
import Formwork.Toml.Datum
import Formwork.Toml.Literal
import Formwork.Toml.Reader
import Formwork.Value.Basic
import Formwork.Value.Display
import Formwork.Value.Order
import Formwork.Value.Reader
import Formwork.Value.Writer
import Formwork.Visibility.Expr
import Formwork.Visibility.Parser
import Formwork.Visibility.Token
import Formwork.Proofs.Visibility.Grammar
import Formwork.Proofs.Visibility.Reading
import Formwork.Proofs.Store.Log
import Formwork.Proofs.Store.Sync
import Formwork.Proofs.Store.Resync
import Formwork.Proofs.Form.Ruled
import Formwork.Proofs.Record.Acceptance
import Formwork.Proofs.Idl.Locality
import Formwork.Proofs.Idl.Stripping
import Formwork.Proofs.Fallible
import Formwork.Proofs.Idl.Sound
import Formwork.Proofs.Form.Shape
import Formwork.Proofs.Form.Loading
import Formwork.Proofs.Catalog.Published
import Formwork.Proofs.Idl.LineEnd
import Formwork.Proofs.Idl.Outside
import Formwork.Proofs.Idl.Directiveless
import Formwork.Proofs.Idl.OptionLines
import Formwork.Proofs.Idl.Remark
import Formwork.Proofs.Form.Reloading
import Formwork.Proofs.Form.Pruning
import Formwork.Proofs.JsonSchema.Accepted
import Formwork.Proofs.Idl.Tightens
import Formwork.Proofs.Idl.Spacing
import Formwork.Proofs.Idl.Complete
import Formwork.Proofs.Idl.Joining
import Formwork.Proofs.Idl.OneLine
import Formwork.Proofs.Idl.LineBreaks
import Formwork.Proofs.Record.UniqueKey
import Formwork.Proofs.Number.Order
import Formwork.Proofs.JsonSchema.Rules
import Formwork.Proofs.Form.Codec
import Formwork.Proofs.Idl.Judged
import Formwork.Proofs.Form.Patternless
import Formwork.Proofs.Idl.BlockComment
import Formwork.Proofs.Record.Filled
import Formwork.Proofs.Catalog.Manifest
import Formwork.Proofs.Form.Offers
import Formwork.Proofs.Form.Tolerance
import Formwork.Proofs.Visibility.RoundTrip
import Formwork.Proofs.Record.BareRow
import Formwork.Proofs.Record.Fences
import Formwork.Proofs.Idl.Nested
import Formwork.Proofs.Idl.Inert
import Formwork.Proofs.Idl.Rescan
import Formwork.Proofs.Idl.Stretches
import Formwork.Proofs.Idl.Placement
import Formwork.Proofs.Idl.OpenLiteral
import Formwork.Proofs.Catalog.Stripped
import Formwork.Proofs.Text.Fold
import Formwork.Proofs.Idl.Directives
import Formwork.Proofs.Idl.DirectiveOrder
import Formwork.Proofs.Idl.PatternComment
import Formwork.Proofs.Idl.QuotedContent
import Formwork.Proofs.Visibility.Limit
import Formwork.Proofs.Visibility.Composition
import Formwork.Proofs.Idl.BracketPattern
import Formwork.Proofs.Idl.FileLines
import Formwork.Proofs.Idl.FileOptions
import Formwork.Proofs.Idl.LineClasses
import Formwork.Proofs.Visibility.Scope
import Formwork.Proofs.Visibility.FieldNames
import Formwork.Proofs.Pattern.Matches
import Formwork.Proofs.Idl.DeclarationShape
import Formwork.Proofs.Idl.DeclarationPattern
