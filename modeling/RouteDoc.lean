import RouteDoc.Assoc
import RouteDoc.Command.Args
import RouteDoc.Command.Run
import RouteDoc.Data
import RouteDoc.Decode.Reader
import RouteDoc.Document.Build
import RouteDoc.Document.Decode
import RouteDoc.Document.Encode
import RouteDoc.Document.Model
import RouteDoc.Document.Print
import RouteDoc.Document.Read
import RouteDoc.Document.Route
import RouteDoc.Document.Schema
import RouteDoc.Document.Template
import RouteDoc.Document.Write
import RouteDoc.Error
import RouteDoc.FileTree
import RouteDoc.Generate
import RouteDoc.Go.Binding
import RouteDoc.Go.Call
import RouteDoc.Go.Function
import RouteDoc.Go.Ident
import RouteDoc.Go.Imports
import RouteDoc.Go.JsonTag
import RouteDoc.Go.LocalType
import RouteDoc.Go.Nesting
import RouteDoc.Go.Reads
import RouteDoc.Go.Statement
import RouteDoc.Go.Struct
import RouteDoc.Go.TypeDecl
import RouteDoc.Handler.Locate
import RouteDoc.Journal
import RouteDoc.Json.Print
import RouteDoc.Json.Read
import RouteDoc.Json.Reader
import RouteDoc.Main
import RouteDoc.Packages
import RouteDoc.Path
import RouteDoc.Project.Files
import RouteDoc.Proofs.CallArguments
import RouteDoc.Proofs.CallReading
import RouteDoc.Proofs.CommentStripping
import RouteDoc.Proofs.DocumentAssembly
import RouteDoc.Proofs.DocumentDecoding
import RouteDoc.Proofs.Expansion
import RouteDoc.Proofs.FieldContributions
import RouteDoc.Proofs.FieldLines
import RouteDoc.Proofs.FileListings
import RouteDoc.Proofs.FileTree
import RouteDoc.Proofs.FunctionLines
import RouteDoc.Proofs.HandlerBody
import RouteDoc.Proofs.HandlerPackages
import RouteDoc.Proofs.HolderMerging
import RouteDoc.Proofs.ImportPaths
import RouteDoc.Proofs.InferredTypes
import RouteDoc.Proofs.JsonText
import RouteDoc.Proofs.LayoutIndependence
import RouteDoc.Proofs.LiteralLines
import RouteDoc.Proofs.ModulePackages
import RouteDoc.Proofs.NamedHandlers
import RouteDoc.Proofs.OperationIds
import RouteDoc.Proofs.ParameterTypes
import RouteDoc.Proofs.PlainResolution
import RouteDoc.Proofs.ReadNames
import RouteDoc.Proofs.RecordReading
import RouteDoc.Proofs.RegistrationLayout
import RouteDoc.Proofs.RegistrationReading
import RouteDoc.Proofs.RequiredMembers
import RouteDoc.Proofs.ResolutionCache
import RouteDoc.Proofs.ResolutionReads
import RouteDoc.Proofs.ResolutionStack
import RouteDoc.Proofs.ResolverStates
import RouteDoc.Proofs.RootSpelling
import RouteDoc.Proofs.RouteIsolation
import RouteDoc.Proofs.RouteTemplates
import RouteDoc.Proofs.SchemaMembers
import RouteDoc.Proofs.SchemaShape
import RouteDoc.Proofs.SourceCache
import RouteDoc.Proofs.SourceHistory
import RouteDoc.Proofs.StatementGroups
import RouteDoc.Proofs.StatementJoining
import RouteDoc.Proofs.StatementLayout
import RouteDoc.Proofs.StrippedText
import RouteDoc.Proofs.StructEnds
import RouteDoc.Proofs.StructLayout
import RouteDoc.Proofs.SubrouterPaths
import RouteDoc.Proofs.SymbolParts
import RouteDoc.Proofs.TextSearch
import RouteDoc.Proofs.TopLevelTypes
import RouteDoc.Proofs.TwinDisks
import RouteDoc.Proofs.TwinHandlers
import RouteDoc.Proofs.TypeDeclarations
import RouteDoc.Proofs.TypeScan
import RouteDoc.Routes.Entry
import RouteDoc.Routes.Manifest
import RouteDoc.Routes.Mux
import RouteDoc.Routes.Qualify
import RouteDoc.Routes.Registration
import RouteDoc.Source.Cache
import RouteDoc.Source.Comment
import RouteDoc.Source.File
import RouteDoc.Symbol
import RouteDoc.Text.Alphanumeric
import RouteDoc.Text.Blank
import RouteDoc.Text.CaseFold
import RouteDoc.Text.CaseMap
import RouteDoc.Text.Decimal
import RouteDoc.Text.DecimalDigit
import RouteDoc.Text.LetterCase
import RouteDoc.Text.Lines
import RouteDoc.Text.Printable
import RouteDoc.Text.Search
import RouteDoc.Text.Span
import RouteDoc.Text.Version
import RouteDoc.Text.WordChar
import RouteDoc.Types.Expand
import RouteDoc.Types.Inferred
import RouteDoc.Types.Resolve
import RouteDoc.Types.Token
import RouteDoc.Ui
import RouteDoc.Words
import RouteDoc.Yaml.Cursor
import RouteDoc.Yaml.Node
import RouteDoc.Yaml.Plain
import RouteDoc.Yaml.Print
import RouteDoc.Yaml.Reader
import RouteDoc.Yaml.ScalarText
import RouteDoc.Yaml.Style
import RouteDoc.Yaml.Tokens
import RouteDoc.Yaml.Value
import RouteDoc.Proofs.HandlerPlaces
import RouteDoc.Proofs.IndexPages
import RouteDoc.Proofs.ImportHeaders
import RouteDoc.Proofs.RequestReads
import RouteDoc.Proofs.ProjectFiles
import RouteDoc.Proofs.ProjectPackages
import RouteDoc.Proofs.WordSplitting
import RouteDoc.Proofs.DeclarationForms
import RouteDoc.Proofs.HandlerConversions
