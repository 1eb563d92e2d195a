import ResourceQuery.Calendar.Date
import ResourceQuery.Calendar.Instant
import ResourceQuery.Calendar.Reader
import ResourceQuery.Document
import ResourceQuery.Embed
import ResourceQuery.Filter.Operand
import ResourceQuery.Filter.Predicate
import ResourceQuery.Http.Link
import ResourceQuery.Http.Percent
import ResourceQuery.Http.Response
import ResourceQuery.Http.Server
import ResourceQuery.Http.Target
import ResourceQuery.Json.Number
import ResourceQuery.Json.Reader
import ResourceQuery.Json.Value
import ResourceQuery.Json.Writer
import ResourceQuery.Naming
import ResourceQuery.Number.Binary64
import ResourceQuery.Number.Numeral
import ResourceQuery.Number.Shortest
import ResourceQuery.Plan
import ResourceQuery.Postgres.Epoch
import ResourceQuery.Postgres.Introspection
import ResourceQuery.Postgres.Parameter
import ResourceQuery.Postgres.Reply
import ResourceQuery.Postgres.Store
import ResourceQuery.Proofs.AcceptedTables
import ResourceQuery.Proofs.AddedProperties
import ResourceQuery.Proofs.AttachedRows
import ResourceQuery.Proofs.BoundOperands
import ResourceQuery.Proofs.CanonicalTexts
import ResourceQuery.Proofs.CellOrder
import ResourceQuery.Proofs.CollectedPairs
import ResourceQuery.Proofs.ConverseEmbeds
import ResourceQuery.Proofs.DateReading
import ResourceQuery.Proofs.DecimalTokens
import ResourceQuery.Proofs.ExactWindows
import ResourceQuery.Proofs.FieldOrder
import ResourceQuery.Proofs.FilterKeys
import ResourceQuery.Proofs.Filtering
import ResourceQuery.Proofs.HttpOutcomes
import ResourceQuery.Proofs.IgnoredInput
import ResourceQuery.Proofs.IndependentKeys
import ResourceQuery.Proofs.InferredColumns
import ResourceQuery.Proofs.InferredTables
import ResourceQuery.Proofs.InstantTexts
import ResourceQuery.Proofs.IntegerOrder
import ResourceQuery.Proofs.JoinedRows
import ResourceQuery.Proofs.KeyReads
import ResourceQuery.Proofs.LinkReading
import ResourceQuery.Proofs.LinkedTables
import ResourceQuery.Proofs.ListedAlternatives
import ResourceQuery.Proofs.LowerCase
import ResourceQuery.Proofs.MemoryAnswers
import ResourceQuery.Proofs.Numerals
import ResourceQuery.Proofs.NumericBounds
import ResourceQuery.Proofs.OnePassStatements
import ResourceQuery.Proofs.OrderedJson
import ResourceQuery.Proofs.OwnTexts
import ResourceQuery.Proofs.PaddedTexts
import ResourceQuery.Proofs.PageLinks
import ResourceQuery.Proofs.Paging
import ResourceQuery.Proofs.Placeholders
import ResourceQuery.Proofs.PlannedStatements
import ResourceQuery.Proofs.QuotedNames
import ResourceQuery.Proofs.Ranks
import ResourceQuery.Proofs.ReferredRows
import ResourceQuery.Proofs.RelatedForms
import ResourceQuery.Proofs.RelationClosure
import ResourceQuery.Proofs.RelationNames
import ResourceQuery.Proofs.ReorderedParameters
import ResourceQuery.Proofs.RepeatedKeys
import ResourceQuery.Proofs.RequestCalls
import ResourceQuery.Proofs.Rounding
import ResourceQuery.Proofs.SearchPatterns
import ResourceQuery.Proofs.ServedDocuments
import ResourceQuery.Proofs.ShortestTexts
import ResourceQuery.Proofs.ShownTimes
import ResourceQuery.Proofs.SingularsOfPlurals
import ResourceQuery.Proofs.SortedBounds
import ResourceQuery.Proofs.SortedRows
import ResourceQuery.Proofs.StableSorts
import ResourceQuery.Proofs.StoreComparisons
import ResourceQuery.Proofs.StoreRuns
import ResourceQuery.Proofs.TokenLists
import ResourceQuery.Proofs.TypedComparisons
import ResourceQuery.Proofs.TypedKeys
import ResourceQuery.Proofs.WholeParts
import ResourceQuery.Proofs.WordForms
import ResourceQuery.Proofs.WrittenDefinitions
import ResourceQuery.Request.Intent
import ResourceQuery.Request.Parameters
import ResourceQuery.Request.Window
import ResourceQuery.Schema.ColumnType
import ResourceQuery.Schema.Definition
import ResourceQuery.Schema.Extraction
import ResourceQuery.Schema.Inference
import ResourceQuery.Schema.Table
import ResourceQuery.Service
import ResourceQuery.Settings
import ResourceQuery.Sql.Comparison
import ResourceQuery.Sql.Query
import ResourceQuery.Sql.Statement
import ResourceQuery.Store.Cell
import ResourceQuery.Store.Memory
import ResourceQuery.Store.Program
import ResourceQuery.Text.Basic
import ResourceQuery.Text.Blank
import ResourceQuery.Text.CaseData
import ResourceQuery.Text.Hex
import ResourceQuery.Text.Lower
import ResourceQuery.Text.Utf8
