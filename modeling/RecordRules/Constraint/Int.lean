import RecordRules.Constraint.Basic

/-!
# Constraints on integers

An integer is bounded from below by `min`, from above by `max`, both inclusive, and put among the
members of a list by `in`. Operands are signed integers of 64 bits.
-/

namespace RecordRules

/-- A constraint on an integer. -/
inductive IntConstraint where
  /-- At least the bound. -/
  | min (bound : Int)
  /-- At most the bound. -/
  | max (bound : Int)
  /-- One of the members. -/
  | among (members : List Int)
  deriving DecidableEq, Repr

namespace IntConstraint

/-- One operand of a condition, or the error that it is no integer. -/
def readOperand (field : String) (c : Condition) (operand : String) : Except SetupError Int :=
  (readInteger operand).mapError (.badOperand field c.operator operand)

/-- All operands of a condition, or the error of the first that is no integer. -/
def readOperands (field : String) (c : Condition) : List String → Except SetupError (List Int)
  | [] => .ok []
  | operand :: operands =>
    match readOperand field c operand with
    | .error e => .error e
    | .ok n => (readOperands field c operands).map (n :: ·)

/-- The constraint of a condition. -/
def ofCondition (field : String) (c : Condition) : Except SetupError IntConstraint :=
  match c.operator with
  | "min" => (readOperand field c c.operand).map .min
  | "max" => (readOperand field c c.operand).map .max
  | "in" => (readOperands field c c.members).map .among
  | operator => .error (.unsupportedOperator field operator)

/-- The violation that goes with a constraint. -/
def kind : IntConstraint → ViolationKind
  | .min _ => .intMin
  | .max _ => .intMax
  | .among _ => .intIn

/-- Whether a value passes. -/
def accepts : IntConstraint → Int → Bool
  | .min bound, n => bound ≤ n
  | .max bound, n => n ≤ bound
  | .among members, n => members.contains n

instance : ConstraintFamily IntConstraint Int where
  resolve := ofCondition
  violation? c n := if c.accepts n then none else some c.kind

theorem violation?_eq_none_iff {c : IntConstraint} {n : Int} :
    violation? c n = none ↔ c.accepts n = true := by
  simp [violation?]

theorem violation?_eq_some_iff {c : IntConstraint} {n : Int} {kind : ViolationKind} :
    violation? c n = some kind ↔ c.accepts n = false ∧ c.kind = kind := by
  simp [violation?]

end IntConstraint

end RecordRules
