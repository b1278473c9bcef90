import ComponentIndex.Command.Arguments
import ComponentIndex.Command.Notice
import ComponentIndex.Command.Run
import ComponentIndex.Data.Basic
import ComponentIndex.Data.Moment
import ComponentIndex.Data.Shown
import ComponentIndex.Descriptor
import ComponentIndex.Failure
import ComponentIndex.FileName
import ComponentIndex.Index.Element
import ComponentIndex.Index.Extension
import ComponentIndex.Index.File
import ComponentIndex.Index.Record
import ComponentIndex.Index.Registry
import ComponentIndex.Json.Reader
import ComponentIndex.Json.Writer
import ComponentIndex.Loop.ElementType
import ComponentIndex.Loop.Expression
import ComponentIndex.Loop.Forward
import ComponentIndex.Main
import ComponentIndex.Markup.Node
import ComponentIndex.Markup.Reader
import ComponentIndex.Markup.Section
import ComponentIndex.Markup.Tag
import ComponentIndex.Number.Binary64
import ComponentIndex.Number.Shortest
import ComponentIndex.Parsers
import ComponentIndex.Project.Detection
import ComponentIndex.Project.Discovery
import ComponentIndex.Project.Glob
import ComponentIndex.Project.Ignore
import ComponentIndex.Project.Scan
import ComponentIndex.Project.Tree
import ComponentIndex.Proofs.Command.Completion
import ComponentIndex.Proofs.Command.Refusal
import ComponentIndex.Proofs.Command.Scan
import ComponentIndex.Proofs.Descriptor.Exclusive
import ComponentIndex.Proofs.Descriptor.Faithful
import ComponentIndex.Proofs.Descriptor.Payload
import ComponentIndex.Proofs.Descriptor.Respelled
import ComponentIndex.Proofs.Descriptor.Shape
import ComponentIndex.Proofs.Failure
import ComponentIndex.Proofs.FileName
import ComponentIndex.Proofs.FileName.Stem
import ComponentIndex.Proofs.Index.Collect
import ComponentIndex.Proofs.Index.Comment
import ComponentIndex.Proofs.Index.Component
import ComponentIndex.Proofs.Index.Extension
import ComponentIndex.Proofs.Index.Handlers
import ComponentIndex.Proofs.Index.Occurrence
import ComponentIndex.Proofs.Index.Registry
import ComponentIndex.Proofs.Index.Slots
import ComponentIndex.Proofs.Index.Statement
import ComponentIndex.Proofs.Json.Writer
import ComponentIndex.Proofs.Lists
import ComponentIndex.Proofs.Loop.AliasList
import ComponentIndex.Proofs.Loop.ElementType
import ComponentIndex.Proofs.Loop.Forward
import ComponentIndex.Proofs.Loop.Keyword
import ComponentIndex.Proofs.Loop.Names
import ComponentIndex.Proofs.Loop.Parentheses
import ComponentIndex.Proofs.Loop.Template
import ComponentIndex.Proofs.Loop.Variable
import ComponentIndex.Proofs.Markup.Reader
import ComponentIndex.Proofs.Markup.Section
import ComponentIndex.Proofs.Markup.Traversal
import ComponentIndex.Proofs.Parsers
import ComponentIndex.Proofs.Project.Completion
import ComponentIndex.Proofs.Project.Components
import ComponentIndex.Proofs.Project.Detection
import ComponentIndex.Proofs.Project.Files
import ComponentIndex.Proofs.Project.Filter
import ComponentIndex.Proofs.Project.NestedRules
import ComponentIndex.Proofs.Project.Pruned
import ComponentIndex.Proofs.Project.Search
import ComponentIndex.Proofs.Project.Walk
import ComponentIndex.Proofs.Script.Comment
import ComponentIndex.Proofs.Script.DottedName
import ComponentIndex.Proofs.Script.Faithful
import ComponentIndex.Proofs.Script.Grammar.Expression
import ComponentIndex.Proofs.Script.Grammar.Function
import ComponentIndex.Proofs.Script.Grammar.Markup
import ComponentIndex.Proofs.Script.Grammar.Pattern
import ComponentIndex.Proofs.Script.Grammar.Rule
import ComponentIndex.Proofs.Script.Grammar.Statement
import ComponentIndex.Proofs.Script.Grammar.Token
import ComponentIndex.Proofs.Script.KeySpelling
import ComponentIndex.Proofs.Script.Layout
import ComponentIndex.Proofs.Script.Literal
import ComponentIndex.Proofs.Script.Octal
import ComponentIndex.Proofs.Script.Preorder
import ComponentIndex.Proofs.Script.Program
import ComponentIndex.Proofs.Script.Property
import ComponentIndex.Proofs.Script.Reference
import ComponentIndex.Proofs.Script.Spelling
import ComponentIndex.Proofs.Script.Surrogate
import ComponentIndex.Proofs.Script.Traversal
import ComponentIndex.Proofs.Script.Unquoted
import ComponentIndex.Proofs.Settings.Extension
import ComponentIndex.Proofs.Settings.Validation
import ComponentIndex.Proofs.SourceFile
import ComponentIndex.Proofs.Stub
import ComponentIndex.Proofs.Text.Blank
import ComponentIndex.Proofs.Text.Join
import ComponentIndex.Proofs.Text.LowerCase
import ComponentIndex.Proofs.Text.Mark
import ComponentIndex.Proofs.Text.Numeral
import ComponentIndex.Proofs.Text.Order
import ComponentIndex.Proofs.Text.Passage
import ComponentIndex.Proofs.Text.Position
import ComponentIndex.Proofs.Text.Scalar
import ComponentIndex.Proofs.Text.Surrogate
import ComponentIndex.Proofs.Text.Utf16
import ComponentIndex.Proofs.Text.Utf8
import ComponentIndex.Script.Grammar.Expression
import ComponentIndex.Script.Grammar.Function
import ComponentIndex.Script.Grammar.Markup
import ComponentIndex.Script.Grammar.Pattern
import ComponentIndex.Script.Grammar.Rule
import ComponentIndex.Script.Grammar.Statement
import ComponentIndex.Script.Grammar.Token
import ComponentIndex.Script.Kind
import ComponentIndex.Script.Node
import ComponentIndex.Script.Object
import ComponentIndex.Script.Program
import ComponentIndex.Script.Reference
import ComponentIndex.Script.StringLiteral
import ComponentIndex.Script.Traversal
import ComponentIndex.Settings.Basic
import ComponentIndex.Settings.Problem
import ComponentIndex.Settings.Reader
import ComponentIndex.SourceFile
import ComponentIndex.Stub
import ComponentIndex.Text.Basic
import ComponentIndex.Text.Blank
import ComponentIndex.Text.CharSet
import ComponentIndex.Text.LowerCase
import ComponentIndex.Text.LowerCase.Table
import ComponentIndex.Text.Mark
import ComponentIndex.Text.Order
import ComponentIndex.Text.Position
import ComponentIndex.Text.Quoted
import ComponentIndex.Text.Quoted.Table
import ComponentIndex.Text.Scan
import ComponentIndex.Text.Utf16
import ComponentIndex.Text.Utf8
import ComponentIndex.Toml.Document
import ComponentIndex.Toml.Quoted
import ComponentIndex.Toml.Scalar
import ComponentIndex.Toml.Statement
import ComponentIndex.Toml.Tree
