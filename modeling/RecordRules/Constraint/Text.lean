import RecordRules.Constraint.Basic
import RecordRules.Pattern.Engine

/-!
# Constraints on strings

A string has a length by `len`, holds a pattern somewhere by `regexp`, and is put among the members
of a list by `in`. The length counts characters, not bytes. Patterns are those of an engine, which
is taken as it is.
-/

namespace RecordRules

variable [PatternEngine]

/-- A constraint on a string. -/
inductive StringConstraint where
  /-- Exactly so many characters. -/
  | len (length : Nat)
  /-- The pattern occurs in it. -/
  | regexp (pattern : PatternEngine.Pattern)
  /-- One of the members. -/
  | among (members : List String)

namespace StringConstraint

/-- The constraint of a condition. -/
def ofCondition (field : String) (c : Condition) : Except SetupError StringConstraint :=
  match c.operator with
  | "len" =>
    match readNatural c.operand with
    | .error fault => .error (.badOperand field c.operator c.operand fault)
    | .ok n => .ok (.len n)
  | "regexp" =>
    match PatternEngine.read c.operand with
    | .error reason => .error (.badPattern field c.operand reason)
    | .ok pattern => .ok (.regexp pattern)
  | "in" => .ok (.among c.members)
  | operator => .error (.unsupportedOperator field operator)

/-- The violation that goes with a constraint. -/
def kind : StringConstraint → ViolationKind
  | .len _ => .strLen
  | .regexp _ => .strRegexp
  | .among _ => .strIn

/-- Whether a value passes. -/
def accepts : StringConstraint → String → Bool
  | .len n, s => s.length = n
  | .regexp pattern, s => PatternEngine.occursIn pattern s
  | .among members, s => members.contains s

instance : ConstraintFamily StringConstraint String where
  resolve := ofCondition
  violation? c s := if c.accepts s then none else some c.kind

theorem violation?_eq_none_iff {c : StringConstraint} {s : String} :
    violation? c s = none ↔ c.accepts s = true := by
  simp [violation?]

theorem violation?_eq_some_iff {c : StringConstraint} {s : String} {kind : ViolationKind} :
    violation? c s = some kind ↔ c.accepts s = false ∧ c.kind = kind := by
  simp [violation?]

end StringConstraint

end RecordRules
