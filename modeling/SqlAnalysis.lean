import SqlAnalysis.Analysis.Analyze
import SqlAnalysis.Analysis.Check
import SqlAnalysis.Analysis.LiteralSearch
import SqlAnalysis.Analysis.Problem
import SqlAnalysis.ColumnType
import SqlAnalysis.CommandLine
import SqlAnalysis.CommandLine.Manual
import SqlAnalysis.Completion
import SqlAnalysis.Config
import SqlAnalysis.Diagnostic
import SqlAnalysis.Hover
import SqlAnalysis.Json.Basic
import SqlAnalysis.Json.Reader
import SqlAnalysis.Json.Writer
import SqlAnalysis.Keyword
import SqlAnalysis.Main
import SqlAnalysis.Proofs.Analysis.ComparedLiteral
import SqlAnalysis.Proofs.Analysis.HoverAgreement
import SqlAnalysis.Proofs.Analysis.InsertedValue
import SqlAnalysis.Proofs.Analysis.ListEntry
import SqlAnalysis.Proofs.Analysis.LiteralPattern
import SqlAnalysis.Proofs.Analysis.Locality
import SqlAnalysis.Proofs.Analysis.Occurrence
import SqlAnalysis.Proofs.Analysis.PlainEntry
import SqlAnalysis.Proofs.Analysis.PlainInsertion
import SqlAnalysis.Proofs.Analysis.SchemaEffect
import SqlAnalysis.Proofs.Analysis.SchemaUse
import SqlAnalysis.Proofs.Analysis.Span
import SqlAnalysis.Proofs.Analysis.Violations
import SqlAnalysis.Proofs.CommandLine.Arguments
import SqlAnalysis.Proofs.CommandLine.Runs
import SqlAnalysis.Proofs.Diagnostic.Closest
import SqlAnalysis.Proofs.Diagnostic.Correction
import SqlAnalysis.Proofs.Diagnostic.Suggestion
import SqlAnalysis.Proofs.Editor.Completion
import SqlAnalysis.Proofs.Editor.Hover
import SqlAnalysis.Proofs.Schema.ColumnLabel
import SqlAnalysis.Proofs.Schema.Lookup
import SqlAnalysis.Proofs.Schema.Store
import SqlAnalysis.Proofs.Schema.WrittenBack
import SqlAnalysis.Proofs.Session.Transparency
import SqlAnalysis.Proofs.Sql.Blame
import SqlAnalysis.Proofs.Sql.BlamedToken
import SqlAnalysis.Proofs.Sql.Columns
import SqlAnalysis.Proofs.Sql.Insertion
import SqlAnalysis.Proofs.Sql.LexerPlaces
import SqlAnalysis.Proofs.Sql.Mention
import SqlAnalysis.Proofs.Sql.NormalForm
import SqlAnalysis.Proofs.Sql.Owner
import SqlAnalysis.Proofs.Sql.Places
import SqlAnalysis.Proofs.Sql.Qualifier
import SqlAnalysis.Proofs.Sql.StatementRange
import SqlAnalysis.Proofs.Sql.Tables
import SqlAnalysis.Proofs.Sql.Target
import SqlAnalysis.Proofs.Sql.Visits
import SqlAnalysis.Proofs.Sql.WrittenName
import SqlAnalysis.Proofs.Text.EditDistance
import SqlAnalysis.Proofs.Text.LineColumn
import SqlAnalysis.Proofs.Text.Slice
import SqlAnalysis.Proofs.Text.Split
import SqlAnalysis.Proofs.Unicode.Classes
import SqlAnalysis.Proofs.Unicode.LetterCase
import SqlAnalysis.Proofs.Word.Coverage
import SqlAnalysis.Proofs.Word.Local
import SqlAnalysis.Proofs.Word.Locate
import SqlAnalysis.Proofs.Word.Maximal
import SqlAnalysis.Proofs.Word.Span
import SqlAnalysis.Proofs.Word.WholeWord
import SqlAnalysis.Schema.Basic
import SqlAnalysis.Schema.Json
import SqlAnalysis.Schema.Store
import SqlAnalysis.Session
import SqlAnalysis.Sql.Blame
import SqlAnalysis.Sql.Collection
import SqlAnalysis.Sql.Frontend
import SqlAnalysis.Sql.Grammar.Administration
import SqlAnalysis.Sql.Grammar.Alteration
import SqlAnalysis.Sql.Grammar.Change
import SqlAnalysis.Sql.Grammar.Core
import SqlAnalysis.Sql.Grammar.Creation
import SqlAnalysis.Sql.Grammar.DataType
import SqlAnalysis.Sql.Grammar.Expression
import SqlAnalysis.Sql.Grammar.Inquiry
import SqlAnalysis.Sql.Grammar.Privilege
import SqlAnalysis.Sql.Grammar.Query
import SqlAnalysis.Sql.Grammar.Removal
import SqlAnalysis.Sql.Grammar.Routine
import SqlAnalysis.Sql.Grammar.Statement
import SqlAnalysis.Sql.Grammar.Table
import SqlAnalysis.Sql.Grammar.Transaction
import SqlAnalysis.Sql.Grammar.Transfer
import SqlAnalysis.Sql.Grammar.Value
import SqlAnalysis.Sql.Lexer
import SqlAnalysis.Sql.Literal
import SqlAnalysis.Sql.Outline
import SqlAnalysis.Sql.StatementRange
import SqlAnalysis.Sql.Token
import SqlAnalysis.Sql.Vocabulary
import SqlAnalysis.Statement.Basic
import SqlAnalysis.Suggestion
import SqlAnalysis.Text.Bytes
import SqlAnalysis.Text.EditDistance
import SqlAnalysis.Text.Quoted
import SqlAnalysis.Text.Split
import SqlAnalysis.Text.Timestamp
import SqlAnalysis.Toml.Document
import SqlAnalysis.Toml.Reader
import SqlAnalysis.Toml.Scalar
import SqlAnalysis.Topic.Basic
import SqlAnalysis.Topic.Catalog
import SqlAnalysis.Unicode.Case
import SqlAnalysis.Unicode.CaseTable
import SqlAnalysis.Unicode.CharClass
import SqlAnalysis.Unicode.HiddenTable
import SqlAnalysis.Unicode.WordTable
import SqlAnalysis.ValueType
import SqlAnalysis.Word
