import SchemaCompiler.Artifact.Basic
import SchemaCompiler.Artifact.Code
import SchemaCompiler.Artifact.ColumnsFile
import SchemaCompiler.Artifact.Kind
import SchemaCompiler.Artifact.Payload
import SchemaCompiler.Artifact.Plan
import SchemaCompiler.Artifact.QueryFile
import SchemaCompiler.Artifact.RelationsFile
import SchemaCompiler.Artifact.RepositoryFile
import SchemaCompiler.Artifact.RootFile
import SchemaCompiler.Artifact.Template
import SchemaCompiler.Attributes
import SchemaCompiler.Attributes.Diagnostic
import SchemaCompiler.CommandLine.Arguments
import SchemaCompiler.CommandLine.Command
import SchemaCompiler.CommandLine.Run
import SchemaCompiler.Declaration
import SchemaCompiler.Entity.Basic
import SchemaCompiler.Entity.Build
import SchemaCompiler.Entity.SqlType
import SchemaCompiler.Folder.Basic
import SchemaCompiler.Folder.Change
import SchemaCompiler.Folder.Glob
import SchemaCompiler.Folder.Path
import SchemaCompiler.Main
import SchemaCompiler.Model.Basic
import SchemaCompiler.Model.Validation
import SchemaCompiler.Naming.Case
import SchemaCompiler.Naming.Inflection
import SchemaCompiler.Project.Clean
import SchemaCompiler.Project.Compile
import SchemaCompiler.Project.Generate
import SchemaCompiler.Project.Scan
import SchemaCompiler.Proofs.Artifact.BuiltIn
import SchemaCompiler.Proofs.Artifact.CommentTexts
import SchemaCompiler.Proofs.Artifact.ConstantNames
import SchemaCompiler.Proofs.Artifact.Dependents
import SchemaCompiler.Proofs.Artifact.EmittedNames
import SchemaCompiler.Proofs.Artifact.FileNames
import SchemaCompiler.Proofs.Artifact.Legality
import SchemaCompiler.Proofs.Artifact.LineBreaks
import SchemaCompiler.Proofs.Artifact.LineCounts
import SchemaCompiler.Proofs.Artifact.Loaders
import SchemaCompiler.Proofs.Artifact.Marker
import SchemaCompiler.Proofs.Artifact.MemberNames
import SchemaCompiler.Proofs.Artifact.Rendering
import SchemaCompiler.Proofs.Artifact.RepositoryStatements
import SchemaCompiler.Proofs.Artifact.RequestedKinds
import SchemaCompiler.Proofs.Artifact.RootModules
import SchemaCompiler.Proofs.Artifact.SourceFiles
import SchemaCompiler.Proofs.Attributes.Accepted
import SchemaCompiler.Proofs.Attributes.Values
import SchemaCompiler.Proofs.Entity.Build
import SchemaCompiler.Proofs.Entity.Constraints
import SchemaCompiler.Proofs.Entity.Fields
import SchemaCompiler.Proofs.Entity.Indexes
import SchemaCompiler.Proofs.Entity.UnknownKeys
import SchemaCompiler.Proofs.Folder.Content
import SchemaCompiler.Proofs.Folder.Entries
import SchemaCompiler.Proofs.Folder.Listing
import SchemaCompiler.Proofs.Folder.Paths
import SchemaCompiler.Proofs.Folder.Places
import SchemaCompiler.Proofs.Folder.Writing
import SchemaCompiler.Proofs.KeyOrder
import SchemaCompiler.Proofs.Model.Build
import SchemaCompiler.Proofs.Model.Changes
import SchemaCompiler.Proofs.Model.ColumnNames
import SchemaCompiler.Proofs.Model.ConstraintNames
import SchemaCompiler.Proofs.Model.Declared
import SchemaCompiler.Proofs.Model.Group
import SchemaCompiler.Proofs.Model.IndexNames
import SchemaCompiler.Proofs.Model.Keys
import SchemaCompiler.Proofs.Model.Lookup
import SchemaCompiler.Proofs.Model.Order
import SchemaCompiler.Proofs.Model.Origin
import SchemaCompiler.Proofs.Model.Outcome
import SchemaCompiler.Proofs.Model.PrimaryKeys
import SchemaCompiler.Proofs.Model.References
import SchemaCompiler.Proofs.Model.Structure
import SchemaCompiler.Proofs.Model.TableNames
import SchemaCompiler.Proofs.Model.Validity
import SchemaCompiler.Proofs.Model.WellFormed
import SchemaCompiler.Proofs.Naming.Inflection
import SchemaCompiler.Proofs.Naming.PlainWords
import SchemaCompiler.Proofs.Naming.Snake
import SchemaCompiler.Proofs.Naming.SnakeForm
import SchemaCompiler.Proofs.Naming.Spelling
import SchemaCompiler.Proofs.Project.Cleaning
import SchemaCompiler.Proofs.Project.Resolution
import SchemaCompiler.Proofs.Project.RoundTrip
import SchemaCompiler.Proofs.Project.Scanning
import SchemaCompiler.Proofs.Project.Selection
import SchemaCompiler.Proofs.Project.StoppedCleaning
import SchemaCompiler.Proofs.Project.Writing
import SchemaCompiler.Proofs.Relation.Reading
import SchemaCompiler.Proofs.Relation.TagForm
import SchemaCompiler.Proofs.Sequence
import SchemaCompiler.Proofs.Source.Names
import SchemaCompiler.Proofs.Source.Records
import SchemaCompiler.Proofs.Source.Tags
import SchemaCompiler.Proofs.Source.Wrapping
import SchemaCompiler.Proofs.Sql.Check
import SchemaCompiler.Proofs.Sql.ColumnType
import SchemaCompiler.Proofs.Sql.IndexSpec
import SchemaCompiler.Proofs.Sql.Literal
import SchemaCompiler.Proofs.Sql.Membership
import SchemaCompiler.Proofs.Sql.Offsets
import SchemaCompiler.Proofs.Sql.Parameters
import SchemaCompiler.Proofs.Sql.Quotes
import SchemaCompiler.Proofs.Sql.Reference
import SchemaCompiler.Proofs.Sql.Words
import SchemaCompiler.Proofs.Tag.Cache
import SchemaCompiler.Proofs.Text.Blank
import SchemaCompiler.Proofs.Text.Identifier
import SchemaCompiler.Proofs.Text.LetterCase
import SchemaCompiler.Proofs.Text.Split
import SchemaCompiler.Relation.Basic
import SchemaCompiler.Relation.Tag
import SchemaCompiler.Report
import SchemaCompiler.Source.Declarations
import SchemaCompiler.Source.Grammar
import SchemaCompiler.Source.Grammar.Attribute
import SchemaCompiler.Source.Grammar.Basic
import SchemaCompiler.Source.Grammar.Expression
import SchemaCompiler.Source.Grammar.Generics
import SchemaCompiler.Source.Grammar.Item
import SchemaCompiler.Source.Grammar.Path
import SchemaCompiler.Source.Grammar.Pattern
import SchemaCompiler.Source.Grammar.Statement
import SchemaCompiler.Source.Grammar.Type
import SchemaCompiler.Source.Item
import SchemaCompiler.Source.Lexer
import SchemaCompiler.Source.Parser
import SchemaCompiler.Source.Quoted
import SchemaCompiler.Source.Token
import SchemaCompiler.Source.TypeExpr
import SchemaCompiler.Sql.Check
import SchemaCompiler.Sql.ColumnType
import SchemaCompiler.Sql.Keyword
import SchemaCompiler.Sql.Literal
import SchemaCompiler.Sql.Reference
import SchemaCompiler.Sql.Statement
import SchemaCompiler.TagCache
import SchemaCompiler.Text.Blank
import SchemaCompiler.Text.Digit
import SchemaCompiler.Text.Identifier
import SchemaCompiler.Text.LetterCase
import SchemaCompiler.Text.Quoted
import SchemaCompiler.Text.Run
import SchemaCompiler.Text.Split
import SchemaCompiler.Timestamp
import SchemaCompiler.Proofs.Sql.ByteSearch
import SchemaCompiler.Proofs.Sql.Bytewise
import SchemaCompiler.Proofs.Sql.Balance
import SchemaCompiler.Proofs.Artifact.Bodies
