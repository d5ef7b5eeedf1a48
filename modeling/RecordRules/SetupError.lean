import RecordRules.Integer
import RecordRules.Kind

/-!
# Errors of rules and schemas

A `SetupError` says that a rule or a schema is broken, or that a value does not have the shape
that was declared for it. It ends a validation at once; what the data does wrong is reported as
violations instead (`RecordRules.Report`).

Every error has a code, a category, in most cases the field it was raised for, and a message.
-/

namespace RecordRules

/-- A broken rule or schema. -/
inductive SetupError where
  /-- A clause of a rule holds more than one colon. -/
  | malformedClause (rule clause : String)
  /-- The operator is not one of those for the field's kind. -/
  | unsupportedOperator (field operator : String)
  /-- The field's kind takes no conditions. -/
  | unsupportedType (field typeName : String)
  /-- An operand that must be an integer is none. -/
  | badOperand (field operator operand : String) (fault : IntegerFault)
  /-- An operand that must be a pattern is none, for a reason in the words of the engine. -/
  | badPattern (field pattern reason : String)
  /-- The value to validate has no fields. -/
  | notARecord (actual : String)
  /-- A value does not have its declared kind. -/
  | valueMismatch (field : String) (expected : FieldKind) (actual : String)
  /-- A sequence that may not be empty is empty. -/
  | emptySequence (field : String)
  deriving DecidableEq, Repr

namespace SetupError

/-- The code that programs tell the errors apart by. -/
def code : SetupError → String
  | .malformedClause .. => "RULE_FORMAT"
  | .unsupportedOperator .. => "RULE_UNSUPPORTED_OPERATOR"
  | .unsupportedType .. => "SCHEMA_UNSUPPORTED_TYPE"
  | .badOperand .. => "RULE_PARSE"
  | .badPattern .. => "RULE_PATTERN"
  | .notARecord .. => "SCHEMA_NOT_A_RECORD"
  | .valueMismatch .. => "SCHEMA_VALUE_MISMATCH"
  | .emptySequence .. => "SCHEMA_EMPTY_SEQUENCE"

/-- Whether a rule or a schema is broken. -/
def category : SetupError → String
  | .malformedClause .. | .unsupportedOperator .. | .badOperand .. | .badPattern .. => "rule"
  | .unsupportedType .. | .notARecord .. | .valueMismatch .. | .emptySequence .. => "schema"

/-- The field that the error was raised for, when there is one. -/
def field? : SetupError → Option String
  | .malformedClause .. | .notARecord .. => none
  | .unsupportedOperator field _ => some field
  | .unsupportedType field _ => some field
  | .badOperand field .. => some field
  | .badPattern field .. => some field
  | .valueMismatch field .. => some field
  | .emptySequence field => some field

/-- The error in words. -/
def message : SetupError → String
  | .malformedClause rule clause =>
    "invalid rule format `" ++ rule ++ "` at clause `" ++ clause
      ++ "`, expected operator[:operand]"
  | .unsupportedOperator field operator =>
    "unsupported operator `" ++ operator ++ "` on field `" ++ field ++ "`"
  | .unsupportedType field typeName =>
    "unsupported type `" ++ typeName ++ "` on field `" ++ field ++ "`"
  | .badOperand field operator operand fault =>
    "operand `" ++ operand ++ "` of `" ++ operator ++ "` on field `" ++ field
      ++ "` is not an integer: " ++ fault.message
  | .badPattern field pattern reason =>
    "invalid pattern `" ++ pattern ++ "` on field `" ++ field ++ "`: " ++ reason
  | .notARecord actual => "invalid type, expected a record but got " ++ actual
  | .valueMismatch field expected actual =>
    "field `" ++ field ++ "` declared as " ++ expected.name ++ " but holds " ++ actual
  | .emptySequence field => "sequence field `" ++ field ++ "` is empty"

/-- Only the two errors about a rule as a whole and a value as a whole name no field. -/
theorem field?_eq_none_iff (e : SetupError) :
    e.field? = none ↔ e.code = "RULE_FORMAT" ∨ e.code = "SCHEMA_NOT_A_RECORD" := by
  cases e <;> simp [field?, code]

end SetupError

end RecordRules
