import DocumentQuery.Store
import DocumentQuery.Json.Reader
import DocumentQuery.Json.DocumentForm
import DocumentQuery.Json.PipelineForm
import DocumentQuery.Proofs.NumberOrder
import DocumentQuery.Proofs.ValueOrder
import DocumentQuery.Proofs.Sorting
import DocumentQuery.Proofs.FirstCopies
import DocumentQuery.Proofs.RunResult
import DocumentQuery.Proofs.StoreScan
import DocumentQuery.Proofs.ExecutionPaths
import DocumentQuery.Proofs.QueryEquality
import DocumentQuery.Proofs.ChangeFilter
import DocumentQuery.Proofs.JsonReading
import DocumentQuery.Proofs.JsonRoundTrip
import DocumentQuery.Proofs.Yields
import DocumentQuery.Proofs.TimestampRange
import DocumentQuery.Proofs.Calendar
import DocumentQuery.Proofs.JsonValidity
import DocumentQuery.Proofs.Completion
import DocumentQuery.Proofs.InequalityOrder
import DocumentQuery.Proofs.OutcomeForm
import DocumentQuery.Proofs.ErrorOrigin
import DocumentQuery.Proofs.StrictFunctions
import DocumentQuery.Proofs.StepRewrites
import DocumentQuery.Proofs.StoreHistory
import DocumentQuery.Proofs.Guarded
import DocumentQuery.Proofs.GuardedFunctions
import DocumentQuery.Proofs.GuardedRun
import DocumentQuery.Proofs.ExactNumbers
import DocumentQuery.Proofs.ShortestDecimal
import DocumentQuery.Proofs.DoubleText
import DocumentQuery.Proofs.DoubleRemainder
import DocumentQuery.Proofs.Connectives
import DocumentQuery.Proofs.Membership
import DocumentQuery.Proofs.PatternLanguage
import DocumentQuery.Proofs.BuiltinMatching
import DocumentQuery.Proofs.BuiltinLanguage
import DocumentQuery.Proofs.AnchoredPatterns
import DocumentQuery.Proofs.WildcardPatterns
import DocumentQuery.Proofs.FieldPathText
import DocumentQuery.Proofs.ResourcePathText
import DocumentQuery.Proofs.StableSort
import DocumentQuery.Proofs.Instants
import DocumentQuery.Proofs.SortDirections
import DocumentQuery.Proofs.TimestampShift
import DocumentQuery.Proofs.IntegerArithmetic
import DocumentQuery.Proofs.ArrayPositions
import DocumentQuery.Proofs.ByteOrder
import DocumentQuery.Proofs.TextPieces
import DocumentQuery.Proofs.FiniteMaps
import DocumentQuery.Proofs.Extremes
import DocumentQuery.Proofs.Pages
import DocumentQuery.Proofs.Contexts
import DocumentQuery.Proofs.Readings
import DocumentQuery.Proofs.NestedFields
import DocumentQuery.Proofs.Complements
