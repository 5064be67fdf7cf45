import Rowsmith.Access.Context
import Rowsmith.Access.Error
import Rowsmith.Clock
import Rowsmith.Code.Accessors
import Rowsmith.Code.Basic
import Rowsmith.Code.Bundle
import Rowsmith.Code.Naming
import Rowsmith.Code.Options
import Rowsmith.Code.Printer
import Rowsmith.Code.RoundTrip
import Rowsmith.Code.Scenario
import Rowsmith.Command.Arguments
import Rowsmith.Command.Generation
import Rowsmith.Command.Run
import Rowsmith.Command.Sources
import Rowsmith.Declaration.Basic
import Rowsmith.Declaration.Collect
import Rowsmith.Declaration.FieldOptions
import Rowsmith.Declaration.Primitive
import Rowsmith.Declaration.Scope
import Rowsmith.Declaration.Set
import Rowsmith.Disk.Basic
import Rowsmith.Disk.Glob
import Rowsmith.Disk.Path
import Rowsmith.Entity.Metadata
import Rowsmith.Output.Apply
import Rowsmith.Output.Plan
import Rowsmith.Settings.Basic
import Rowsmith.Settings.Document.Basic
import Rowsmith.Settings.Document.Reader
import Rowsmith.Settings.Document.Text
import Rowsmith.Settings.Expansion
import Rowsmith.Settings.Layout
import Rowsmith.Settings.Project
import Rowsmith.Source.Grammar.Basic
import Rowsmith.Source.Grammar.Expressions
import Rowsmith.Source.Grammar.Items
import Rowsmith.Source.Grammar.Patterns
import Rowsmith.Source.Grammar.Types
import Rowsmith.Source.Literal
import Rowsmith.Source.Parse
import Rowsmith.Source.Reader
import Rowsmith.Source.Scan
import Rowsmith.Source.Token
import Rowsmith.Source.Tree
import Rowsmith.Statement.Build
import Rowsmith.Statement.Dialect
import Rowsmith.Statement.Fields
import Rowsmith.Table.Basic
import Rowsmith.Table.ColumnType
import Rowsmith.Table.Compile
import Rowsmith.Table.Resolution
import Rowsmith.Text.Blank
import Rowsmith.Text.CodePoints
import Rowsmith.Text.Letter
import Rowsmith.Text.Lines
import Rowsmith.Text.NameCharacter
import Rowsmith.Text.Ordered
import Rowsmith.Text.Quoted
import Rowsmith.Text.Segments
import Rowsmith.Text.SnakeCase
import Rowsmith.Text.Visible
import Rowsmith.Value.Basic
import Rowsmith.Value.Binding
import Rowsmith.Value.Instant
import Rowsmith.Main
import Rowsmith.Proofs.Code.BareNames
import Rowsmith.Proofs.Code.ColumnNames
import Rowsmith.Proofs.Code.MemoryTable
import Rowsmith.Proofs.Code.NonceValues
import Rowsmith.Proofs.Code.Positions
import Rowsmith.Proofs.Code.StoredRows
import Rowsmith.Proofs.Code.Suites
import Rowsmith.Proofs.Command.Arguments
import Rowsmith.Proofs.Command.Emitted
import Rowsmith.Proofs.Command.History
import Rowsmith.Proofs.Command.Spelling
import Rowsmith.Proofs.Command.Stages
import Rowsmith.Proofs.Declaration.FieldOptions
import Rowsmith.Proofs.Declaration.Set
import Rowsmith.Proofs.Disk.Edit
import Rowsmith.Proofs.Disk.Listing
import Rowsmith.Proofs.Disk.Location
import Rowsmith.Proofs.Disk.Path
import Rowsmith.Proofs.Disk.Continuation
import Rowsmith.Proofs.Disk.Reach
import Rowsmith.Proofs.Entity.Agreement
import Rowsmith.Proofs.Output.Regeneration
import Rowsmith.Proofs.Output.Run
import Rowsmith.Proofs.Output.Unmarked
import Rowsmith.Proofs.Statement.Clauses
import Rowsmith.Proofs.Statement.Fields
import Rowsmith.Proofs.Statement.Outcome
import Rowsmith.Proofs.Statement.Payloads
import Rowsmith.Proofs.Statement.Reading
import Rowsmith.Proofs.Statement.Unambiguous
import Rowsmith.Proofs.Table.Compile
import Rowsmith.Proofs.Table.Definition
import Rowsmith.Proofs.Text.Blank
import Rowsmith.Proofs.Text.Letters
import Rowsmith.Proofs.Text.Quoted
import Rowsmith.Proofs.Text.SnakeCase
import Rowsmith.Proofs.Traversal
import Rowsmith.Proofs.Value.Decoding
import Rowsmith.Proofs.Value.Timestamps
import Rowsmith.Proofs.Value.Widths
import Rowsmith.Proofs.Table.Faults
import Rowsmith.Proofs.Declaration.Names
import Rowsmith.Proofs.Text.Ordered
import Rowsmith.Proofs.Text.Segments
import Rowsmith.Proofs.Code.Identifiers
import Rowsmith.Proofs.Code.Imports
import Rowsmith.Proofs.Disk.Rows
import Rowsmith.Proofs.Disk.Openness
import Rowsmith.Proofs.Disk.Scaffold
import Rowsmith.Proofs.Output.Confinement
import Rowsmith.Proofs.Clock.Guards
import Rowsmith.Proofs.Command.Selection
import Rowsmith.Proofs.Code.ModuleTree
import Rowsmith.Proofs.Disk.PathOrder
import Rowsmith.Proofs.Command.Exclusion
import Rowsmith.Proofs.Table.ReadBack
import Rowsmith.Proofs.Declaration.TypePaths
import Rowsmith.Proofs.Declaration.UsePaths
import Rowsmith.Proofs.Declaration.Sites
import Rowsmith.Proofs.Declaration.Insertions
import Rowsmith.Proofs.Declaration.Locality
import Rowsmith.Proofs.Code.TestRows
import Rowsmith.Proofs.Table.TypeText
import Rowsmith.Proofs.Code.Projections
import Rowsmith.Proofs.Table.Independence
import Rowsmith.Proofs.Command.OutputPaths
import Rowsmith.Proofs.Clock.Nesting
import Rowsmith.Proofs.Output.Difference
import Rowsmith.Proofs.Settings.Rules
import Rowsmith.Proofs.Command.Groups
import Rowsmith.Proofs.Command.Jobs
import Rowsmith.Proofs.Command.JoinedValues
import Rowsmith.Proofs.Command.GroupOrder
import Rowsmith.Proofs.Settings.References
import Rowsmith.Proofs.Source.Literals
import Rowsmith.Proofs.Code.Constants
