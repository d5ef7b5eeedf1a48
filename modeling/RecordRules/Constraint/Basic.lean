import RecordRules.Report
import RecordRules.Rule

/-!
# Constraints

A constraint is a condition made ready for values of one type. The strings and the integers each
have a family of constraints of their own (`ConstraintFamily`), which says

* how a condition is resolved into a constraint, or why it cannot be;
* what, if anything, a value violates.

Resolving stops at the first condition that cannot be resolved. Evaluating never stops: every pair
of a value and a constraint that fail together is reported, value by value.
-/

namespace RecordRules

/-- The constraints of type `C` on values of type `V`. -/
class ConstraintFamily (C : Type) (V : outParam Type) where
  /-- The constraint of a condition on a field. -/
  resolve : String → Condition → Except SetupError C
  /-- What a value violates. -/
  violation? : C → V → Option ViolationKind

export ConstraintFamily (resolve violation?)

variable {C V : Type} [ConstraintFamily C V]

/-- The constraints of all conditions, in order, or the error of the first that has none. -/
def resolveAll (C : Type) {V : Type} [ConstraintFamily C V] (field : String) :
    List Condition → Except SetupError (List C)
  | [] => .ok []
  | c :: cs =>
    match resolve field c with
    | .error e => .error e
    | .ok constraint => (resolveAll C field cs).map (constraint :: ·)

/-- What one value violates, in the order of the constraints. -/
def violationsOf (field : String) (constraints : List C) (value : V) : List Violation :=
  constraints.filterMap fun c => (violation? c value).map (Violation.mk field)

/-- What the values violate: first all of the first value, then all of the second, and so on. -/
def evaluate (field : String) (constraints : List C) (values : List V) : List Violation :=
  values.flatMap (violationsOf field constraints)

/-- The violations of bare values under a rule. -/
def checkValues (C : Type) {V : Type} [ConstraintFamily C V] (field rule : String)
    (values : List V) : Except SetupError (List Violation) :=
  match Rule.parse rule with
  | .error e => .error e
  | .ok conditions =>
    match resolveAll C field conditions with
    | .error e => .error e
    | .ok constraints => .ok (evaluate field constraints values)

@[simp] theorem evaluate_nil (field : String) (constraints : List C) :
    evaluate field constraints [] = [] := rfl

@[simp] theorem evaluate_singleton (field : String) (constraints : List C) (value : V) :
    evaluate field constraints [value] = violationsOf field constraints value := by
  simp [evaluate]

theorem evaluate_append (field : String) (constraints : List C) (vs ws : List V) :
    evaluate field constraints (vs ++ ws)
      = evaluate field constraints vs ++ evaluate field constraints ws := by
  simp [evaluate]

/-- Nothing is reported when every value passes every constraint. -/
theorem evaluate_eq_nil_iff {field : String} {constraints : List C} {values : List V} :
    evaluate field constraints values = [] ↔
      ∀ value ∈ values, ∀ c ∈ constraints, violation? c value = none := by
  simp [evaluate, violationsOf]

end RecordRules
