import DeclaredOptions.Config
import DeclaredOptions.ConfigFile
import DeclaredOptions.Console
import DeclaredOptions.Console.ColorTable
import DeclaredOptions.Console.Listing
import DeclaredOptions.Console.Markup
import DeclaredOptions.Console.Style
import DeclaredOptions.Data
import DeclaredOptions.Declaration.Basic
import DeclaredOptions.Declaration.Collection
import DeclaredOptions.Declaration.TypeExpr
import DeclaredOptions.Doc.Block
import DeclaredOptions.Doc.Selection
import DeclaredOptions.Emit.Inspection
import DeclaredOptions.Emit.Module
import DeclaredOptions.Failure
import DeclaredOptions.FileTree
import DeclaredOptions.JsonText
import DeclaredOptions.Literal.Basic
import DeclaredOptions.Literal.Escape
import DeclaredOptions.Literal.Numeral
import DeclaredOptions.Literal.Reading
import DeclaredOptions.Literal.Typed
import DeclaredOptions.Main
import DeclaredOptions.Number.Binary64
import DeclaredOptions.Number.Digits
import DeclaredOptions.Number.Shortest
import DeclaredOptions.Number.Value
import DeclaredOptions.Path
import DeclaredOptions.Project
import DeclaredOptions.Proofs.Config.Kinds
import DeclaredOptions.Proofs.Console.Escaping
import DeclaredOptions.Proofs.Declaration.Appearance
import DeclaredOptions.Proofs.Declaration.Exports
import DeclaredOptions.Proofs.Declaration.Forms
import DeclaredOptions.Proofs.Declaration.Numbering
import DeclaredOptions.Proofs.Declaration.Overloads
import DeclaredOptions.Proofs.Declaration.Rearranged
import DeclaredOptions.Proofs.Declaration.Rows
import DeclaredOptions.Proofs.Declaration.Shown
import DeclaredOptions.Proofs.Declaration.TypeReading
import DeclaredOptions.Proofs.Declaration.TypeText
import DeclaredOptions.Proofs.Doc.Blocks
import DeclaredOptions.Proofs.Doc.Parameters
import DeclaredOptions.Proofs.Emit.Bindings
import DeclaredOptions.Proofs.Emit.ImportedEnum
import DeclaredOptions.Proofs.Emit.Imports
import DeclaredOptions.Proofs.Emit.Names
import DeclaredOptions.Proofs.Emit.ObjectLiteral
import DeclaredOptions.Proofs.Emit.PropertyKeys
import DeclaredOptions.Proofs.Emit.Readback
import DeclaredOptions.Proofs.Emit.Strings
import DeclaredOptions.Proofs.FileTree
import DeclaredOptions.Proofs.FirstOccurrence
import DeclaredOptions.Proofs.Literal.Body
import DeclaredOptions.Proofs.Literal.Grammar
import DeclaredOptions.Proofs.Literal.Misquoted
import DeclaredOptions.Proofs.Literal.NumberValue
import DeclaredOptions.Proofs.Literal.Numeral
import DeclaredOptions.Proofs.Literal.Quoted
import DeclaredOptions.Proofs.Literal.RoundTrip
import DeclaredOptions.Proofs.Literal.ScriptNumber
import DeclaredOptions.Proofs.Literal.Source
import DeclaredOptions.Proofs.Literal.Value
import DeclaredOptions.Proofs.Literal.Whole
import DeclaredOptions.Proofs.Number.Canonical
import DeclaredOptions.Proofs.Number.Worth
import DeclaredOptions.Proofs.Path.Ending
import DeclaredOptions.Proofs.Path.Joined
import DeclaredOptions.Proofs.Path.NormalForm
import DeclaredOptions.Proofs.Path.RelativeSpecifier
import DeclaredOptions.Proofs.Path.Specifier
import DeclaredOptions.Proofs.Project.Candidates
import DeclaredOptions.Proofs.Project.Failing
import DeclaredOptions.Proofs.Project.History
import DeclaredOptions.Proofs.Project.ImportOrder
import DeclaredOptions.Proofs.Project.ImportedNames
import DeclaredOptions.Proofs.Project.Loads
import DeclaredOptions.Proofs.Project.Modules
import DeclaredOptions.Proofs.Project.Reachable
import DeclaredOptions.Proofs.Project.Versions
import DeclaredOptions.Proofs.Reference.Grouping
import DeclaredOptions.Proofs.Reference.History
import DeclaredOptions.Proofs.Reference.Passes
import DeclaredOptions.Proofs.Reference.Table
import DeclaredOptions.Proofs.Schema.Alternatives
import DeclaredOptions.Proofs.Schema.Arrays
import DeclaredOptions.Proofs.Schema.Assembly
import DeclaredOptions.Proofs.Schema.Clash
import DeclaredOptions.Proofs.Schema.Defaults
import DeclaredOptions.Proofs.Schema.MemberPaths
import DeclaredOptions.Proofs.Schema.MemberRefusal
import DeclaredOptions.Proofs.Schema.MemberValues
import DeclaredOptions.Proofs.Schema.Members
import DeclaredOptions.Proofs.Schema.Outcome
import DeclaredOptions.Proofs.Schema.RefusedTypes
import DeclaredOptions.Proofs.Schema.Resolution
import DeclaredOptions.Proofs.Schema.Settings
import DeclaredOptions.Proofs.Schema.Symbols
import DeclaredOptions.Proofs.Schema.TagComments
import DeclaredOptions.Proofs.Schema.Warnings
import DeclaredOptions.Proofs.Source.Fault
import DeclaredOptions.Proofs.Source.Checked
import DeclaredOptions.Proofs.Source.Naming
import DeclaredOptions.Proofs.Source.Outcome
import DeclaredOptions.Proofs.Source.Stretch
import DeclaredOptions.Proofs.Source.Word
import DeclaredOptions.Proofs.Step
import DeclaredOptions.Proofs.Text.BindableName
import DeclaredOptions.Proofs.Text.Cutting
import DeclaredOptions.Proofs.Text.Delimited
import DeclaredOptions.Proofs.Text.IdentifierTable
import DeclaredOptions.Proofs.Text.Lines
import DeclaredOptions.Proofs.Text.NameRuns
import DeclaredOptions.Proofs.Text.ScriptName
import DeclaredOptions.Proofs.Text.ScriptString
import DeclaredOptions.Proofs.Text.Surface
import DeclaredOptions.Proofs.Text.Units
import DeclaredOptions.Proofs.Tool.Modules
import DeclaredOptions.Proofs.Tool.Refusal
import DeclaredOptions.Proofs.Tool.Steps
import DeclaredOptions.Reference
import DeclaredOptions.Schema.Assembly
import DeclaredOptions.Schema.Descriptor
import DeclaredOptions.Schema.Members
import DeclaredOptions.Schema.Option
import DeclaredOptions.Schema.Resolution
import DeclaredOptions.Sight
import DeclaredOptions.Similarity
import DeclaredOptions.Source.Cursor
import DeclaredOptions.Source.ExpressionGrammar
import DeclaredOptions.Source.Fault
import DeclaredOptions.Source.Grammar
import DeclaredOptions.Source.Lexeme
import DeclaredOptions.Source.Reading
import DeclaredOptions.Source.Signature
import DeclaredOptions.Source.StatementGrammar
import DeclaredOptions.Source.Tree
import DeclaredOptions.Source.TypeGrammar
import DeclaredOptions.Text.Class
import DeclaredOptions.Text.Cut
import DeclaredOptions.Text.Identifier
import DeclaredOptions.Text.Lower
import DeclaredOptions.Text.LowerTable
import DeclaredOptions.Text.Pattern
import DeclaredOptions.Text.PrintTable
import DeclaredOptions.Text.Quoted
import DeclaredOptions.Text.Upper
import DeclaredOptions.Text.UpperTable
import DeclaredOptions.Text.WidthTable
import DeclaredOptions.Text.WordTable
import DeclaredOptions.Text.Wrap
import DeclaredOptions.Tool
import DeclaredOptions.Usage.Grammar
import DeclaredOptions.Usage.Layout
import DeclaredOptions.Usage.Matching
import DeclaredOptions.Usage.Reading
import DeclaredOptions.Usage.Refusal
import DeclaredOptions.Usage.Template
import DeclaredOptions.Usage.Word
import DeclaredOptions.Work
import DeclaredOptions.Yaml.Node
import DeclaredOptions.Yaml.Place
import DeclaredOptions.Yaml.Plain
import DeclaredOptions.Yaml.Reading
import DeclaredOptions.Yaml.Token
import DeclaredOptions.Yaml.Writer
