/-!
# Configuration

A validation is configured by the key under which fields carry their rules, and by what is done
with sequences that have no elements.
-/

namespace RecordRules

/-- What is done with a sequence without elements. -/
inductive EmptySequence where
  /-- Its rule is still read, and then the field passes. -/
  | vacuous
  /-- The validation ends with an error. -/
  | reject
  deriving DecidableEq, Repr

/-- The name of a policy. -/
def EmptySequence.name : EmptySequence → String
  | .vacuous => "vacuous"
  | .reject => "reject"

/-- The policy of a name. -/
def EmptySequence.ofName? (name : String) : Option EmptySequence :=
  match name with
  | "vacuous" => some .vacuous
  | "reject" => some .reject
  | _ => none

/-- Every policy is found by its name. -/
@[simp] theorem EmptySequence.ofName?_name (policy : EmptySequence) :
    ofName? policy.name = some policy := by
  cases policy <;> rfl

/-- The configuration of a validation. -/
structure Config where
  /-- The key under which fields carry their rules. -/
  annotationKey : String := "validate"
  /-- What is done with sequences without elements. -/
  emptySequence : EmptySequence := .vacuous
  deriving DecidableEq, Repr

namespace Config

/-- Rules under `validate`, and empty sequences pass. -/
def standard : Config := {}

/-- Rules under `validate`, and empty sequences are errors. -/
def strict : Config := { emptySequence := .reject }

end Config

end RecordRules
