import KeywordValues.Catalog.Basic
import KeywordValues.Catalog.Document
import KeywordValues.Catalog.Standard
import KeywordValues.CommandLine.Command
import KeywordValues.CommandLine.Help
import KeywordValues.CommandLine.Log
import KeywordValues.CommandLine.Options
import KeywordValues.CommandLine.Output
import KeywordValues.CommandLine.Run
import KeywordValues.CommandLine.Table
import KeywordValues.CommandLine.Usage
import KeywordValues.Conversion
import KeywordValues.DataType
import KeywordValues.Decimal.Layout
import KeywordValues.Decimal.Numeral
import KeywordValues.Decimal.Shortest
import KeywordValues.Decimal.Whole
import KeywordValues.Decimal.Word
import KeywordValues.Elementwise
import KeywordValues.Files.Basic
import KeywordValues.Files.Document
import KeywordValues.Files.Tree
import KeywordValues.Journal
import KeywordValues.Json.Basic
import KeywordValues.Json.Error
import KeywordValues.Json.Printer
import KeywordValues.Json.Quoted
import KeywordValues.Json.Reader
import KeywordValues.Json.Scanned
import KeywordValues.Keyword
import KeywordValues.Load
import KeywordValues.Main
import KeywordValues.NameMap
import KeywordValues.Node
import KeywordValues.Proofs.ByteOrder
import KeywordValues.Registry
import KeywordValues.Text.Blank
import KeywordValues.Text.CharSet
import KeywordValues.Text.Emoji
import KeywordValues.Text.Hidden
import KeywordValues.Text.Literal
import KeywordValues.Text.Width
import KeywordValues.Text.Width.Behind
import KeywordValues.Text.Width.Character
import KeywordValues.Text.Width.Letter
import KeywordValues.TypeText
import KeywordValues.TypedValue
import KeywordValues.Proofs.NameMap
import KeywordValues.Proofs.Catalog
import KeywordValues.Proofs.Conversion
import KeywordValues.Proofs.Outcome
import KeywordValues.Proofs.Loading
import KeywordValues.Proofs.FailFast
import KeywordValues.Proofs.Collect
import KeywordValues.Proofs.CatalogDocument
import KeywordValues.Proofs.Trim
import KeywordValues.Proofs.CatalogCalls
import KeywordValues.Proofs.ConversionRule
import KeywordValues.Proofs.Reloading
import KeywordValues.Proofs.TypeName
import KeywordValues.Proofs.Decimal
import KeywordValues.Proofs.PrintedText
import KeywordValues.Proofs.DocumentAcceptance
import KeywordValues.Proofs.Json.Numeral
import KeywordValues.Proofs.Json.Reader
import KeywordValues.Proofs.TextRoundTrip
import KeywordValues.Proofs.Extending
import KeywordValues.Proofs.Registry
import KeywordValues.Proofs.Files
import KeywordValues.Proofs.LoadCommand
import KeywordValues.Proofs.DoubleRange
import KeywordValues.Proofs.IntegerText
import KeywordValues.Proofs.JsonRoundTrip
import KeywordValues.Proofs.Merging
import KeywordValues.Proofs.SchemaLine
import KeywordValues.Proofs.CommandSteps
import KeywordValues.Proofs.FailingRun
import KeywordValues.Proofs.FlatJson
import KeywordValues.Proofs.MergingDocuments
import KeywordValues.Proofs.WholeDocument
import KeywordValues.Proofs.CatalogFile
import KeywordValues.Proofs.RejectionLog
import KeywordValues.Proofs.Display
import KeywordValues.Proofs.OversizedDocument
import KeywordValues.Proofs.RepeatedName
import KeywordValues.Proofs.TypeText
