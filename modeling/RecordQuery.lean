import RecordQuery.Config.AuthScheme
import RecordQuery.Config.Basic
import RecordQuery.Config.Codec
import RecordQuery.Config.Environment
import RecordQuery.Failure
import RecordQuery.Filter.Key
import RecordQuery.Filter.Operator
import RecordQuery.Filter.Predicate
import RecordQuery.Filter.WhereClause
import RecordQuery.Json.Basic
import RecordQuery.Json.Cursor
import RecordQuery.Json.Decode
import RecordQuery.Json.Members
import RecordQuery.Json.NumberReader
import RecordQuery.Json.Printer
import RecordQuery.Json.Reader
import RecordQuery.Json.SyntaxError
import RecordQuery.Number.Binary64
import RecordQuery.Number.Decimal
import RecordQuery.Number.Notation
import RecordQuery.Number.Rounding
import RecordQuery.Page.Basic
import RecordQuery.Page.Info
import RecordQuery.Proofs.Config.SchemeNames
import RecordQuery.Proofs.Config.Stored
import RecordQuery.Proofs.Config.Variables
import RecordQuery.Proofs.Filter.EmptyConditions
import RecordQuery.Proofs.Filter.Grammar
import RecordQuery.Proofs.Filter.KeyClause
import RecordQuery.Proofs.Filter.KeyPlace
import RecordQuery.Proofs.Filter.KeyScope
import RecordQuery.Proofs.Filter.Marks
import RecordQuery.Proofs.Filter.Meaning
import RecordQuery.Proofs.Filter.NormalForm
import RecordQuery.Proofs.Filter.Qualifiers
import RecordQuery.Proofs.Filter.Reading
import RecordQuery.Proofs.Filter.Rewriting
import RecordQuery.Proofs.Json.Members
import RecordQuery.Proofs.Json.ReadBack
import RecordQuery.Proofs.Json.Reading
import RecordQuery.Proofs.Json.WrittenForms
import RecordQuery.Proofs.Number.WideIntegers
import RecordQuery.Proofs.Page.Metadata
import RecordQuery.Proofs.Page.Numbers
import RecordQuery.Proofs.Page.Windows
import RecordQuery.Proofs.Query.Appending
import RecordQuery.Proofs.Query.Interleaving
import RecordQuery.Proofs.Query.SortReading
import RecordQuery.Proofs.Records.Addresses
import RecordQuery.Proofs.Records.AssignedKey
import RecordQuery.Proofs.Records.Creation
import RecordQuery.Proofs.Records.Extraction
import RecordQuery.Proofs.Records.Failures
import RecordQuery.Proofs.Records.Jointly
import RecordQuery.Proofs.Records.ListRequests
import RecordQuery.Proofs.Records.ListingQuery
import RecordQuery.Proofs.Records.Pagination
import RecordQuery.Proofs.Records.ReadBack
import RecordQuery.Proofs.Records.Tries
import RecordQuery.Proofs.Records.Walk
import RecordQuery.Proofs.Records.WriteByKey
import RecordQuery.Proofs.Records.WrittenKey
import RecordQuery.Proofs.Scalar.RoundTrip
import RecordQuery.Proofs.Scalar.Storage
import RecordQuery.Proofs.Url.Clipping
import RecordQuery.Proofs.Url.Decoding
import RecordQuery.Proofs.Url.FormReading
import RecordQuery.Proofs.Url.Segments
import RecordQuery.Query.Basic
import RecordQuery.Query.Parameters
import RecordQuery.Query.Sort
import RecordQuery.Query.Steps
import RecordQuery.Records.Body
import RecordQuery.Records.Endpoint
import RecordQuery.Records.Exchange
import RecordQuery.Records.Listing
import RecordQuery.Records.Operation
import RecordQuery.Records.Operations
import RecordQuery.Row
import RecordQuery.Scalar.Basic
import RecordQuery.Scalar.Calendar
import RecordQuery.Scalar.Json
import RecordQuery.Text.Blank
import RecordQuery.Text.Casing
import RecordQuery.Text.CombiningClass
import RecordQuery.Text.Composition
import RecordQuery.Text.Glyphless
import RecordQuery.Text.Joining
import RecordQuery.Text.Mark
import RecordQuery.Text.Numeral
import RecordQuery.Text.Ranges
import RecordQuery.Text.Split
import RecordQuery.Text.Visible
import RecordQuery.Text.WritingDirection
import RecordQuery.Url.Basic
import RecordQuery.Url.Domain.Label
import RecordQuery.Url.Domain.Mapping
import RecordQuery.Url.Domain.Permitted
import RecordQuery.Url.Domain.Punycode
import RecordQuery.Url.Form
import RecordQuery.Url.Host
import RecordQuery.Url.Parser
import RecordQuery.Url.Path
import RecordQuery.Url.Percent
