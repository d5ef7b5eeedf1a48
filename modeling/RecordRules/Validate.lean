import RecordRules.Config
import RecordRules.Constraint.Int
import RecordRules.Constraint.Text
import RecordRules.Event
import RecordRules.Record.Basic

/-!
# Validating records

A validation walks through the fields of a record in order. A leaf is checked by the constraints of
its kind (`Leaf.outcome`); a nested record is walked through once for every clause of its rule, and
the only operator there is `nested`. The first error ends everything; until then violations are
collected.

What a walk does is a `Walk`: the events it reports and, at the end, its violations or its error.
Two walks follow each other by `Walk.andThen`, where the second is dropped when the first fails.

* `Record.walk` is the walk through a record at some depth;
* `Config.validate` is a whole validation, framed by its first and last event;
* `Config.check` takes violations as an error too.
-/

namespace RecordRules

/-! ## 1. Walks -/

/-- What a part of a validation does: the events it reports and how it ends. -/
structure Walk where
  /-- The events, in order. -/
  log : List Event
  /-- The violations, or the error that ended it. -/
  result : Except SetupError (List Violation)
  deriving Repr

namespace Walk

/-- Nothing to do. -/
def done : Walk := ⟨[], .ok []⟩

/-- An error without events. -/
def fail (error : SetupError) : Walk := ⟨[], .error error⟩

/-- An event before a walk. -/
def after (event : Event) (w : Walk) : Walk := ⟨event :: w.log, w.result⟩

/-- A walk after another one, unless that one fails. -/
def andThen (first second : Walk) : Walk :=
  match first.result with
  | .error error => ⟨first.log, .error error⟩
  | .ok vs => ⟨first.log ++ second.log, second.result.map (vs ++ ·)⟩

end Walk

/-! ## 2. Leaves -/

/-- Whether a sequence without elements is an error. -/
def Config.refuses {α : Type} (config : Config) (items : List α) : Bool :=
  items.isEmpty && config.emptySequence == .reject

/-- The violations of the elements of a sequence. The rule is read before the elements are
    counted. -/
def Config.checkSequence (C : Type) {V : Type} [ConstraintFamily C V] (config : Config)
    (field rule : String) (items : List V) : Except SetupError (List Violation) :=
  match checkValues C field rule items with
  | .error error => .error error
  | .ok vs => if config.refuses items then .error (.emptySequence field) else .ok vs

variable [PatternEngine]

/-- The violations of a leaf, or its error. -/
def Leaf.outcome (config : Config) (field rule : String) : Leaf → Except SetupError (List Violation)
  | .other typeName => .error (.unsupportedType field typeName)
  | .mismatch expected actual => .error (.valueMismatch field expected actual)
  | .str s => checkValues StringConstraint field rule [s]
  | .int n => checkValues IntConstraint field rule [n]
  | .strSeq items => config.checkSequence StringConstraint field rule items
  | .intSeq items => config.checkSequence IntConstraint field rule items

/-! ## 3. Records -/

/-- The one operator of nested records. -/
def nestedOperator : String := "nested"

/-- A nested record once for every clause of its rule. -/
def Walk.perClause (field : String) (depth : Nat) (inner : Walk) : List Condition → Walk
  | [] => .done
  | c :: cs =>
    if c.operator = nestedOperator then
      (inner.after (.descending field depth)).andThen (perClause field depth inner cs)
    else .fail (.unsupportedOperator field c.operator)

/-- The walk through the fields of a record, framed by the events of the record. -/
def Walk.ofRecord (fields depth : Nat) (w : Walk) : Walk :=
  match w.result with
  | .error error => ⟨.extracted fields depth :: w.log ++ [.aborted error depth], .error error⟩
  | .ok vs => ⟨.extracted fields depth :: w.log ++ [.validated fields vs.length depth], .ok vs⟩

mutual

/-- The walk through a record at a depth. -/
def Record.walk (config : Config) (depth : Nat) : Record → Walk
  | .unreadable error => ⟨[.aborted error depth], .error error⟩
  | .ofFields fields => (walkFields config depth fields).ofRecord fields.length depth

/-- The walk through fields in order. -/
def walkFields (config : Config) (depth : Nat) : List Field → Walk
  | [] => .done
  | field :: fields => (field.walk config depth).andThen (walkFields config depth fields)

/-- The walk through one field. -/
def Field.walk (config : Config) (depth : Nat) : Field → Walk
  | .mk name rule value =>
    (value.walk config depth name rule).after (.dispatching name value.kind rule depth)

/-- The walk through the value of a field. -/
def FieldValue.walk (config : Config) (depth : Nat) (name rule : String) : FieldValue → Walk
  | .leaf v => ⟨[], v.outcome config name rule⟩
  | .record inner =>
    match Rule.parse rule with
    | .error error => .fail error
    | .ok conditions =>
      .perClause name (depth + 1) (inner.walk config (depth + 1)) conditions

end

/-! ## 4. Whole validations -/

/-- A validation: the walk through a record behind its first event, and with its last event when
    no error ended it. -/
def Config.validate (config : Config) (record : Record) : Walk :=
  let w := record.walk config 0
  match w.result with
  | .error error => ⟨.validating config.annotationKey :: w.log, .error error⟩
  | .ok vs => ⟨.validating config.annotationKey :: w.log ++ [.finished vs.length], .ok vs⟩

/-- The report of a validation, or its error. -/
def Config.report (config : Config) (record : Record) : Except SetupError Report :=
  (config.validate record).result.map Report.mk

/-- A validation that takes violations as an error. -/
def Config.check (config : Config) (record : Record) : Except CheckError Unit :=
  match config.report record with
  | .error error => .error (.infrastructure error)
  | .ok report => (report.intoResult ()).mapError .rejected

end RecordRules
