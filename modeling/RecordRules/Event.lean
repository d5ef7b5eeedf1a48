import RecordRules.SetupError

/-!
# Events of a validation

A validation reports what it does as events, in order. An event is shown as a level, a message and
named values; those that are counts or depths are numbers, the rest are texts.
-/

namespace RecordRules

/-- One step of a validation. The depth of the outermost record is zero. -/
inductive Event where
  /-- A validation starts. -/
  | validating (annotationKey : String)
  /-- The fields of a record are at hand. -/
  | extracted (fields depth : Nat)
  /-- A field is about to be looked at. -/
  | dispatching (field : String) (kind : FieldKind) (rule : String) (depth : Nat)
  /-- A nested record is about to be looked at; the depth is the inner one. -/
  | descending (field : String) (depth : Nat)
  /-- A record has been looked at to its end. -/
  | validated (fields violations depth : Nat)
  /-- A record has been left because of an error. -/
  | aborted (error : SetupError) (depth : Nat)
  /-- A validation has come to its end. -/
  | finished (violations : Nat)
  deriving DecidableEq, Repr

/-- How much detail an event is. -/
inductive Level where
  /-- The course of a validation. -/
  | debug
  /-- Every field. -/
  | trace
  deriving DecidableEq, Repr

/-- A named value of an event. -/
inductive EventValue where
  /-- A text. -/
  | text (s : String)
  /-- A count or a depth. -/
  | number (n : Nat)
  deriving DecidableEq, Repr

namespace Event

/-- The level of an event. -/
def level : Event → Level
  | .dispatching .. | .descending .. => .trace
  | _ => .debug

/-- The message of an event. -/
def message : Event → String
  | .validating .. => "validating record"
  | .extracted .. => "record fields extracted"
  | .dispatching .. => "dispatching field"
  | .descending .. => "descending into nested record"
  | .validated .. => "record validated"
  | .aborted .. => "validation aborted"
  | .finished .. => "validation finished"

/-- The named values of an event. An error without a field shows an empty one. -/
def values : Event → List (String × EventValue)
  | .validating key => [("annotation_key", .text key)]
  | .extracted fields depth => [("fields", .number fields), ("depth", .number depth)]
  | .dispatching field kind rule depth =>
    [("field", .text field), ("kind", .text kind.name), ("rule", .text rule),
      ("depth", .number depth)]
  | .descending field depth => [("field", .text field), ("depth", .number depth)]
  | .validated fields violations depth =>
    [("fields", .number fields), ("violations", .number violations), ("depth", .number depth)]
  | .aborted error depth =>
    [("code", .text error.code), ("field", .text (error.field?.getD "")),
      ("depth", .number depth), ("error", .text error.message)]
  | .finished violations => [("violations", .number violations)]

/-- The depth of an event, unless it belongs to the validation as a whole. -/
def depth? : Event → Option Nat
  | .validating _ | .finished _ => none
  | .extracted _ depth => some depth
  | .dispatching _ _ _ depth => some depth
  | .descending _ depth => some depth
  | .validated _ _ depth => some depth
  | .aborted _ depth => some depth

/-- The event `n` levels further down. -/
def shift (n : Nat) : Event → Event
  | .extracted fields depth => .extracted fields (depth + n)
  | .dispatching field kind rule depth => .dispatching field kind rule (depth + n)
  | .descending field depth => .descending field (depth + n)
  | .validated fields violations depth => .validated fields violations (depth + n)
  | .aborted error depth => .aborted error (depth + n)
  | event => event

end Event

/-- The name of a level. -/
def Level.name : Level → String
  | .debug => "DEBUG"
  | .trace => "TRACE"

end RecordRules
