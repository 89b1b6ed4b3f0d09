import Observation.CommandLine
import Observation.Decimal.Binary64
import Observation.Decimal.Shortest
import Observation.Evaluation
import Observation.Event
import Observation.Event.Record
import Observation.EventType
import Observation.Failure
import Observation.Filter
import Observation.Filter.Diagnostics
import Observation.Filter.Record
import Observation.Input
import Observation.Json.Error
import Observation.Json.Lexical
import Observation.Json.Reader
import Observation.Json.Skip
import Observation.Json.Value
import Observation.Log.Buffer
import Observation.Log.Operation
import Observation.Log.Profile
import Observation.Log.Record
import Observation.Log.Selection
import Observation.Main
import Observation.Name
import Observation.OrderedSet
import Observation.Path.Basic
import Observation.Path.Error
import Observation.Path.Normalize
import Observation.Path.Parse
import Observation.Path.Relation
import Observation.Proofs.Check
import Observation.Proofs.Evaluation.Reference
import Observation.Proofs.Evaluation.Rerun
import Observation.Proofs.Event.Relay
import Observation.Proofs.Except
import Observation.Proofs.Filter.Canonical
import Observation.Proofs.Filter.Containment
import Observation.Proofs.Filter.Decision
import Observation.Proofs.Filter.Decoding
import Observation.Proofs.Filter.Document
import Observation.Proofs.Filter.Misplaced
import Observation.Proofs.Filter.Relay
import Observation.Proofs.Filter.Report
import Observation.Proofs.Filter.Sample
import Observation.Proofs.Json.Compact
import Observation.Proofs.Json.Consumed
import Observation.Proofs.Json.Drafts
import Observation.Proofs.Json.Layout
import Observation.Proofs.Json.Numbers
import Observation.Proofs.Json.Passed
import Observation.Proofs.Json.Pretty
import Observation.Proofs.Json.Reads
import Observation.Proofs.Json.Records
import Observation.Proofs.Json.Skip
import Observation.Proofs.Json.Strings
import Observation.Proofs.Json.Takes
import Observation.Proofs.Json.WellFormed
import Observation.Proofs.Json.Written
import Observation.Proofs.Log.Bracketing
import Observation.Proofs.Log.Capture
import Observation.Proofs.Log.Reports
import Observation.Proofs.Name
import Observation.Proofs.Name.Agreement
import Observation.Proofs.OrderedSet
import Observation.Proofs.Path.Ancestor
import Observation.Proofs.Path.Cut
import Observation.Proofs.Path.Fault
import Observation.Proofs.Path.Grammar
import Observation.Proofs.Path.Matching
import Observation.Proofs.Path.Misspelling
import Observation.Proofs.Path.Obtained
import Observation.Proofs.Path.Order
import Observation.Proofs.Path.Partition
import Observation.Proofs.Path.Piecewise
import Observation.Proofs.Path.Resolution
import Observation.Proofs.Path.Scan
import Observation.Proofs.Path.Segment
import Observation.Proofs.Path.Text
import Observation.Proofs.Path.TextOrder
import Observation.Proofs.Path.Tree
import Observation.Proofs.Text.Cut
import Observation.Proofs.Text.Digits
import Observation.Proofs.Text.Lines
import Observation.Proofs.TypeMask
import Observation.Registry
import Observation.Run
import Observation.Text.Alphanumeric
import Observation.Text.Blank
import Observation.Text.Digits
import Observation.Text.Pattern
import Observation.Text.Quoted
import Observation.Text.Unprintable
