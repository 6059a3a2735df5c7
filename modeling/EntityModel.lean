import EntityModel.Catalog.Basic
import EntityModel.Catalog.Decode
import EntityModel.Catalog.Encode
import EntityModel.CommandLine
import EntityModel.CommandLine.Arguments
import EntityModel.CustomType
import EntityModel.Diagnostic
import EntityModel.Dialect.Mapping
import EntityModel.Dialect.MySql
import EntityModel.Dialect.Postgres
import EntityModel.Dialect.Sqlite
import EntityModel.Dialect.TypeTable
import EntityModel.Document.Decode
import EntityModel.Document.Fault
import EntityModel.Document.JsonText
import EntityModel.Document.Node
import EntityModel.Document.PlainScalar
import EntityModel.Document.Yaml.Cursor
import EntityModel.Document.Yaml.Scalar
import EntityModel.Document.Yaml.Token
import EntityModel.Document.YamlText
import EntityModel.Driver
import EntityModel.Engine
import EntityModel.Entity
import EntityModel.Error
import EntityModel.Generation.Basic
import EntityModel.Generation.Encode
import EntityModel.Generation.Report
import EntityModel.Import
import EntityModel.Import.Collection
import EntityModel.Import.Default
import EntityModel.Json.Basic
import EntityModel.Json.Decimal
import EntityModel.Json.Magnitude
import EntityModel.Json.Printer
import EntityModel.Libraries
import EntityModel.Main
import EntityModel.Naming.Identifier
import EntityModel.Naming.Parameter
import EntityModel.Naming.Renamed
import EntityModel.Naming.Singular
import EntityModel.Options.Basic
import EntityModel.Options.Document
import EntityModel.Options.PrimaryKey
import EntityModel.Options.Report
import EntityModel.Options.Settle
import EntityModel.Override.Basic
import EntityModel.Override.Expression
import EntityModel.Override.Pattern
import EntityModel.Override.Spec
import EntityModel.PackagePath
import EntityModel.Proofs.ArrayDepths
import EntityModel.Proofs.ArrayTypes
import EntityModel.Proofs.BoundQualifier
import EntityModel.Proofs.ByteOrder
import EntityModel.Proofs.CaseImages
import EntityModel.Proofs.CatalogOrder
import EntityModel.Proofs.CatalogParts
import EntityModel.Proofs.Collector
import EntityModel.Proofs.CommandOutcomes
import EntityModel.Proofs.CompactForm
import EntityModel.Proofs.Declarations
import EntityModel.Proofs.DeclaredTypes
import EntityModel.Proofs.DefaultSchema
import EntityModel.Proofs.DriverSupport
import EntityModel.Proofs.ElementTypes
import EntityModel.Proofs.Enforcement
import EntityModel.Proofs.ExportedNames
import EntityModel.Proofs.Expressions
import EntityModel.Proofs.FixtureImports
import EntityModel.Proofs.GeneratedTypes
import EntityModel.Proofs.Histories
import EntityModel.Proofs.ImportAdditions
import EntityModel.Proofs.ImportedTypes
import EntityModel.Proofs.Inflection
import EntityModel.Proofs.InternalSchemas
import EntityModel.Proofs.LikeColumns
import EntityModel.Proofs.Nullability
import EntityModel.Proofs.OptionMembers
import EntityModel.Proofs.Overflow
import EntityModel.Proofs.OverrideEntries
import EntityModel.Proofs.OverrideOrder
import EntityModel.Proofs.OwningTables
import EntityModel.Proofs.PackageName
import EntityModel.Proofs.ParameterNames
import EntityModel.Proofs.PathDecorations
import EntityModel.Proofs.PathNames
import EntityModel.Proofs.PointerPolicy
import EntityModel.Proofs.PrimaryKeys
import EntityModel.Proofs.ReadBack
import EntityModel.Proofs.Refusals
import EntityModel.Proofs.RenameOrders
import EntityModel.Proofs.RequestFormat
import EntityModel.Proofs.SchemaFolding
import EntityModel.Proofs.Settlement
import EntityModel.Proofs.SingularCuts
import EntityModel.Proofs.SingularForms
import EntityModel.Proofs.SourceOrder
import EntityModel.Proofs.StableSort
import EntityModel.Proofs.TablePackages
import EntityModel.Proofs.TableRuns
import EntityModel.Proofs.TableTypes
import EntityModel.Proofs.TextDocuments
import EntityModel.Proofs.TypeArguments
import EntityModel.Proofs.TypeForms
import EntityModel.Proofs.TypeOperations
import EntityModel.Proofs.TypeSpellings
import EntityModel.Proofs.Wildcards
import EntityModel.Request.Basic
import EntityModel.Request.Read
import EntityModel.Resolution
import EntityModel.TargetType.Basic
import EntityModel.TargetType.Compact
import EntityModel.Text.Alphanumeric
import EntityModel.Text.Blank
import EntityModel.Text.CaseContext
import EntityModel.Text.CaseTables
import EntityModel.Text.LetterCase
import EntityModel.Text.Printable
import EntityModel.Text.Quoted
import EntityModel.Text.Ranges
import EntityModel.Text.Segment
