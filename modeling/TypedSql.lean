import TypedSql.Main
import TypedSql.Query.SliceCall
import TypedSql.Script.LiteralReader
import TypedSql.Script.ModelsReader
import TypedSql.Script.Nesting
import TypedSql.Script.TypeReader
import TypedSql.Proofs.Text.Edit
import TypedSql.Proofs.Text.Replacement
import TypedSql.Proofs.Query.SliceCall
import TypedSql.Proofs.Text.Word
import TypedSql.Proofs.Query.ColumnList
import TypedSql.Proofs.Query.Alias
import TypedSql.Proofs.Query.RowAgreement
import TypedSql.Proofs.Query.RawNames
import TypedSql.Proofs.Protobuf.RoundTrip
import TypedSql.Proofs.Plugin.RequestRoundTrip
import TypedSql.Proofs.Generate.Outcome
import TypedSql.Proofs.Script.Items
import TypedSql.Proofs.Generate.DeclaredNames
import TypedSql.Proofs.Generate.Scope
import TypedSql.Proofs.Query.Signature
import TypedSql.Proofs.Script.Layout
import TypedSql.Proofs.Script.Code
import TypedSql.Proofs.Text.Camel
import TypedSql.Proofs.Text.ByteOrder
import TypedSql.Proofs.Protobuf.Spelling
import TypedSql.Proofs.Protobuf.UnknownFields
import TypedSql.Proofs.Plugin.UnknownFields
import TypedSql.Proofs.Json.Lexer
import TypedSql.Proofs.Plugin.ResponseRoundTrip
import TypedSql.Proofs.Json.Numeral
import TypedSql.Proofs.Json.Parser
import TypedSql.Proofs.Json.Record
import TypedSql.Proofs.Request.JsonRoundTrip
import TypedSql.Proofs.Generate.Sections
import TypedSql.Proofs.Script.Literal
import TypedSql.Proofs.Query.SliceType
import TypedSql.Proofs.Query.AliasPlace
import TypedSql.Proofs.Output.Path
import TypedSql.Proofs.Output.FileTree
import TypedSql.Proofs.Output.Directories
import TypedSql.Proofs.Output.Files
import TypedSql.Proofs.Traversal
import TypedSql.Proofs.Plugin.Conversion
import TypedSql.Proofs.Options.Literal
import TypedSql.Proofs.Text.Keyed
import TypedSql.Proofs.Options.Syntaxes
import TypedSql.Proofs.Text.Insertion
import TypedSql.Proofs.Query.AliasInsertion
import TypedSql.Proofs.Text.CaseMap
import TypedSql.Proofs.Catalog.LastEntry
import TypedSql.Proofs.Query.ParameterType
import TypedSql.Proofs.Generate.UnknownTypes
import TypedSql.Proofs.Text.SnakeCase
import TypedSql.Proofs.Generate.FormedNames
import TypedSql.Proofs.Script.ModelsRoundTrip
import TypedSql.Proofs.Script.Nesting
import TypedSql.Proofs.Script.QuerierNesting
