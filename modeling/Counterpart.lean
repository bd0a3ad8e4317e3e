import Counterpart.Calendar.Date
import Counterpart.Calendar.Pattern
import Counterpart.Calendar.Timestamp
import Counterpart.Compatibility.Basic
import Counterpart.Compatibility.Matrix
import Counterpart.Criteria.Codec
import Counterpart.Criteria.Pairing
import Counterpart.Criteria.Store
import Counterpart.Field.Basic
import Counterpart.Field.Bounds
import Counterpart.Field.Choices
import Counterpart.Field.Codec
import Counterpart.Field.FoldedSet
import Counterpart.Field.Kind
import Counterpart.Field.Schema
import Counterpart.Field.Side
import Counterpart.Format.Address
import Counterpart.Format.Scalar
import Counterpart.Import.Discovery
import Counterpart.Import.Inference
import Counterpart.Import.Mapping
import Counterpart.Import.Preview
import Counterpart.Import.Run
import Counterpart.Import.Table
import Counterpart.Import.Tokens
import Counterpart.Import.Transform
import Counterpart.Json.Basic
import Counterpart.Json.Decode
import Counterpart.Json.DecodeError
import Counterpart.Json.Reader
import Counterpart.Json.Record
import Counterpart.Json.Skip
import Counterpart.Json.Writer
import Counterpart.KeyMap
import Counterpart.Log.Directive
import Counterpart.Log.Event
import Counterpart.Log.Filter
import Counterpart.Log.Render
import Counterpart.Log.Setup
import Counterpart.Numeric.Binary
import Counterpart.Numeric.Decimal
import Counterpart.Numeric.Layout
import Counterpart.Numeric.Literal
import Counterpart.Numeric.Rounding
import Counterpart.Numeric.Shortest
import Counterpart.Proofs.Field.Choices
import Counterpart.Proofs.Field.FoldedSet
import Counterpart.Proofs.Field.Schema
import Counterpart.Proofs.Import.Batches
import Counterpart.Proofs.Import.Discovery
import Counterpart.Proofs.Import.Growth
import Counterpart.Proofs.Import.Run
import Counterpart.Proofs.Import.Tokens
import Counterpart.Proofs.Import.Transform
import Counterpart.Proofs.KeyMap
import Counterpart.Proofs.Session.Import
import Counterpart.Proofs.Session.Reachable
import Counterpart.Proofs.Text.Case
import Counterpart.Proofs.Text.Trim
import Counterpart.Proofs.Validation.Fieldwise
import Counterpart.Proofs.Validation.Fits
import Counterpart.Session.Basic
import Counterpart.Session.Import
import Counterpart.Settings.Basic
import Counterpart.Settings.Codec
import Counterpart.Settings.Json
import Counterpart.Suggestion.Assignment
import Counterpart.Suggestion.Similarity
import Counterpart.Text.Blank
import Counterpart.Text.Case
import Counterpart.Text.CaseTable
import Counterpart.Text.Letter
import Counterpart.Text.LetterTable
import Counterpart.Text.Pattern
import Counterpart.Text.PrintableTable
import Counterpart.Text.Quoted
import Counterpart.Text.Reader
import Counterpart.Toml.Quoted
import Counterpart.Toml.Reader
import Counterpart.Toml.Scalar
import Counterpart.Toml.Tree
import Counterpart.Toml.Writer
import Counterpart.Validation.Issue
import Counterpart.Validation.Rule
import Counterpart.Validation.Validator
import Counterpart.Proofs.Import.Mapping
import Counterpart.Proofs.Import.Importer
import Counterpart.Proofs.Import.Repetition
import Counterpart.Proofs.Session.Growth
import Counterpart.Proofs.Criteria.Store
import Counterpart.Proofs.Session.Invariant
import Counterpart.Proofs.Session.Pickers
import Counterpart.Proofs.Compatibility.Matrix
import Counterpart.Proofs.Criteria.Append
import Counterpart.Proofs.Session.Mapping
import Counterpart.Proofs.Session.Pairings
import Counterpart.Proofs.Validation.Alone
import Counterpart.Proofs.Numeric.Stored
import Counterpart.Proofs.Validation.Coercion
import Counterpart.Proofs.Validation.Stored
import Counterpart.Proofs.Validation.WellTyped
import Counterpart.Proofs.Validation.Relaxation
import Counterpart.Proofs.Validation.Enlargement
import Counterpart.Proofs.Session.Acceptance
import Counterpart.Proofs.Log.Setup
import Counterpart.Proofs.Session.Events
import Counterpart.Proofs.Session.Columns
import Counterpart.Proofs.Criteria.Ledger
import Counterpart.Proofs.Criteria.Payload
import Counterpart.Proofs.Criteria.Replay
import Counterpart.Proofs.Compatibility.Relation
import Counterpart.Proofs.Compatibility.Views
import Counterpart.Proofs.Json.Number
import Counterpart.Proofs.Json.Scalar
import Counterpart.Proofs.Json.Scan
import Counterpart.Proofs.Suggestion.Assignment
import Counterpart.Proofs.Suggestion.Mapping
import Counterpart.Proofs.Json.Record
import Counterpart.Proofs.Session.Suggestion
import Counterpart.Proofs.Field.Codec
import Counterpart.Proofs.Field.OwnValue
import Counterpart.Proofs.Import.Occurrences
import Counterpart.Proofs.Import.Naming
import Counterpart.Proofs.Import.Selection
import Counterpart.Proofs.Field.Extension
import Counterpart.Proofs.Format.Scalar
import Counterpart.Proofs.Import.Several
import Counterpart.Proofs.Import.Agreement
import Counterpart.Proofs.Import.Monotone
import Counterpart.Proofs.Numeric.Nearest
import Counterpart.Proofs.Numeric.Value
import Counterpart.Proofs.Validation.Bounds
import Counterpart.Proofs.Import.Number
import Counterpart.Proofs.Field.Fault
import Counterpart.Proofs.Text.Cut
import Counterpart.Proofs.Text.Regex
import Counterpart.Proofs.Format.Address
import Counterpart.Proofs.Calendar.Date
import Counterpart.Proofs.Calendar.Digits
import Counterpart.Proofs.Calendar.Layout
import Counterpart.Proofs.Calendar.Pattern
import Counterpart.Proofs.Import.Delimiter
import Counterpart.Proofs.Json.Value
import Counterpart.Proofs.Validation.Codec
import Counterpart.Proofs.Suggestion.Header
import Counterpart.Proofs.Format.Number
