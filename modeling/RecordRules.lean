import RecordRules.Config.Json
import RecordRules.Declaration
import RecordRules.Proofs.EmptySequences
import RecordRules.Proofs.Evaluation
import RecordRules.Proofs.FailFast
import RecordRules.Proofs.Independence
import RecordRules.Proofs.Json.Reading
import RecordRules.Proofs.Json.RoundTrip
import RecordRules.Proofs.Leaves
import RecordRules.Proofs.Log.Nesting
import RecordRules.Proofs.Log.Shift
import RecordRules.Proofs.Order
import RecordRules.Proofs.Schema.Agreement
import RecordRules.Proofs.Schema.Declared
import RecordRules.Proofs.Schema.Eager
import RecordRules.Proofs.Schema.Erasure
import RecordRules.Proofs.Schema.Extraction
import RecordRules.Proofs.Schema.RoundTrip
import RecordRules.Proofs.Slicing
import RecordRules.Record.Shown
import RecordRules.Report.Json
import RecordRules.Schema.Bind
import RecordRules.Schema.Json
import RecordRules.Proofs.Families
import RecordRules.Proofs.Rule.Spelling
import RecordRules.Proofs.Rule.Faults
import RecordRules.Proofs.Rule.Joining
import RecordRules.Proofs.Rule.Operands
import RecordRules.Proofs.Schema.Descriptions
import RecordRules.Proofs.Rule.Intervals
import RecordRules.Proofs.Rule.Members
import RecordRules.Proofs.Log.Powers
import RecordRules.Proofs.Schema.Depth
import RecordRules.Proofs.Rendering
