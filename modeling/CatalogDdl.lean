import CatalogDdl.Catalog.Basic
import CatalogDdl.Catalog.Descriptor
import CatalogDdl.Catalog.Snapshot
import CatalogDdl.ColumnType.Builtin
import CatalogDdl.ColumnType.Name
import CatalogDdl.ColumnType.Override
import CatalogDdl.ColumnType.Rule
import CatalogDdl.CommandLine.Arguments
import CatalogDdl.CommandLine.Program
import CatalogDdl.Ddl.Banner
import CatalogDdl.Ddl.Bundle
import CatalogDdl.Ddl.Check
import CatalogDdl.Ddl.ColumnClause
import CatalogDdl.Ddl.Constraint
import CatalogDdl.Ddl.Identifier
import CatalogDdl.Ddl.Index
import CatalogDdl.Ddl.Lexer
import CatalogDdl.Ddl.Quote
import CatalogDdl.Ddl.ServerVersion
import CatalogDdl.Ddl.Synthesis
import CatalogDdl.Ddl.Warning
import CatalogDdl.Fault
import CatalogDdl.Files.FileSystem
import CatalogDdl.Files.Path
import CatalogDdl.Files.Tree
import CatalogDdl.Json.Basic
import CatalogDdl.Json.Printer
import CatalogDdl.Json.Reader
import CatalogDdl.Json.Record
import CatalogDdl.Main
import CatalogDdl.Number.Binary64
import CatalogDdl.Number.Shortest
import CatalogDdl.Proofs.AnySchedule
import CatalogDdl.Proofs.ArrivalOrder
import CatalogDdl.Proofs.BannerComments
import CatalogDdl.Proofs.Candidates
import CatalogDdl.Proofs.CatalogCase
import CatalogDdl.Proofs.CheckFixedPoint
import CatalogDdl.Proofs.CheckLiterals
import CatalogDdl.Proofs.CheckMeaning
import CatalogDdl.Proofs.CheckSegments
import CatalogDdl.Proofs.CommentLiterals
import CatalogDdl.Proofs.Conservation
import CatalogDdl.Proofs.DecimalTypes
import CatalogDdl.Proofs.Descriptors
import CatalogDdl.Proofs.DryRun
import CatalogDdl.Proofs.EarlyStop
import CatalogDdl.Proofs.ExpressionLiterals
import CatalogDdl.Proofs.FileTree
import CatalogDdl.Proofs.FlatPredicate
import CatalogDdl.Proofs.Groups
import CatalogDdl.Proofs.IndexKeys
import CatalogDdl.Proofs.JsonText
import CatalogDdl.Proofs.LetterCase
import CatalogDdl.Proofs.LogLines
import CatalogDdl.Proofs.LowerMarks
import CatalogDdl.Proofs.NotNullSpacing
import CatalogDdl.Proofs.NumberRange
import CatalogDdl.Proofs.OutputFiles
import CatalogDdl.Proofs.OutputPaths
import CatalogDdl.Proofs.OverrideRules
import CatalogDdl.Proofs.Parentheses
import CatalogDdl.Proofs.PoolRun
import CatalogDdl.Proofs.QuotedNames
import CatalogDdl.Proofs.References
import CatalogDdl.Proofs.Renaming
import CatalogDdl.Proofs.Review
import CatalogDdl.Proofs.Routing
import CatalogDdl.Proofs.SingleSpaces
import CatalogDdl.Proofs.Synthesis
import CatalogDdl.Proofs.TableDefects
import CatalogDdl.Proofs.TableLookup
import CatalogDdl.Proofs.TableSelection
import CatalogDdl.Proofs.TargetLiterals
import CatalogDdl.Proofs.Text
import CatalogDdl.Proofs.TypeNames
import CatalogDdl.Proofs.TypeOrigins
import CatalogDdl.Proofs.UpperCase
import CatalogDdl.Proofs.VersionOrder
import CatalogDdl.Proofs.Words
import CatalogDdl.Proofs.WriterOrder
import CatalogDdl.Run.Job
import CatalogDdl.Run.Outcome
import CatalogDdl.Run.Pool
import CatalogDdl.Run.Selection
import CatalogDdl.Run.Summary
import CatalogDdl.Run.Writer
import CatalogDdl.Settings.Basic
import CatalogDdl.Settings.Coercion
import CatalogDdl.Settings.Descriptor
import CatalogDdl.Settings.Document
import CatalogDdl.Settings.Environment
import CatalogDdl.Settings.Layer
import CatalogDdl.Settings.Load
import CatalogDdl.Settings.Validate
import CatalogDdl.Text.Blank
import CatalogDdl.Text.Case
import CatalogDdl.Text.CaseTable
import CatalogDdl.Text.EscapeTable
import CatalogDdl.Text.Numeral
import CatalogDdl.Text.Quoted
import CatalogDdl.Text.Words
import CatalogDdl.Toml.Basic
import CatalogDdl.Toml.Datetime
import CatalogDdl.Toml.Reader
import CatalogDdl.Toml.Scalar
import CatalogDdl.Toml.Token
import CatalogDdl.Proofs.GridLines
import CatalogDdl.Proofs.CommentLines
import CatalogDdl.Proofs.DottedKeys
import CatalogDdl.Proofs.LayeredSettings
import CatalogDdl.Proofs.QuotePairs
