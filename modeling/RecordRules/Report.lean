import RecordRules.SetupError

/-!
# Violations and reports

A violation says that one value of a named field fails one condition. A report is the list of the
violations of a validation, in order; a record is valid when its report is empty.

* `Report.render` writes a report as `field: description` entries with a separator between them,
  and `Report.display` is that text with `; `;
* `Report.forField` keeps the violations of one field;
* `CheckError` is the one error for callers to whom a failed validation and a broken rule are the
  same.
-/

namespace RecordRules

/-! ## 1. Violations -/

/-- What a value fails. -/
inductive ViolationKind where
  /-- The length of a string. -/
  | strLen
  /-- The pattern of a string. -/
  | strRegexp
  /-- The allowed strings. -/
  | strIn
  /-- The least integer. -/
  | intMin
  /-- The greatest integer. -/
  | intMax
  /-- The allowed integers. -/
  | intIn
  deriving DecidableEq, Repr

namespace ViolationKind

/-- Every kind of violation. -/
def all : List ViolationKind := [.strLen, .strRegexp, .strIn, .intMin, .intMax, .intIn]

/-- The code that programs tell the kinds apart by. -/
def code : ViolationKind → String
  | .strLen => "str_len"
  | .strRegexp => "str_regexp"
  | .strIn => "str_in"
  | .intMin => "int_min"
  | .intMax => "int_max"
  | .intIn => "int_in"

/-- The violation in words. -/
def description : ViolationKind → String
  | .strLen => "string length is not as expected"
  | .strRegexp => "string does not match the pattern"
  | .strIn => "string is not one of the allowed values"
  | .intMin => "value is less than the minimum"
  | .intMax => "value is greater than the maximum"
  | .intIn => "value is not one of the allowed values"

/-- The name of a kind in stored reports. -/
def name : ViolationKind → String
  | .strLen => "str_len"
  | .strRegexp => "str_regexp"
  | .strIn => "str_in"
  | .intMin => "int_min"
  | .intMax => "int_max"
  | .intIn => "int_in"

/-- The kind of a name. -/
def ofName? (name : String) : Option ViolationKind := all.find? fun kind => kind.name = name

/-- Every kind is found by its name. -/
@[simp] theorem ofName?_name (kind : ViolationKind) : ofName? kind.name = some kind := by
  cases kind <;> decide

/-- What programs tell the kinds apart by is what they are stored as. -/
theorem code_eq_name (kind : ViolationKind) : kind.code = kind.name := by
  cases kind <;> rfl

end ViolationKind

/-- One value of a field failing one condition. -/
structure Violation where
  /-- The name of the field. -/
  field : String
  /-- What the value fails. -/
  kind : ViolationKind
  deriving DecidableEq, Repr

/-- The violation in words, behind the name of the field. -/
def Violation.display (v : Violation) : String := v.field ++ ": " ++ v.kind.description

/-! ## 2. Reports -/

/-- The violations of a validation, in order. -/
structure Report where
  /-- The violations. -/
  violations : List Violation
  deriving DecidableEq, Repr

namespace Report

/-- The report without violations. -/
def empty : Report := ⟨[]⟩

/-- Whether nothing was violated. -/
def isValid (r : Report) : Bool := r.violations.isEmpty

/-- The number of violations. -/
def length (r : Report) : Nat := r.violations.length

/-- The report with one more violation at the end. -/
def push (r : Report) (v : Violation) : Report := ⟨r.violations ++ [v]⟩

/-- The report with further violations at the end. -/
def extend (r : Report) (vs : List Violation) : Report := ⟨r.violations ++ vs⟩

/-- The violations of both reports, one after the other. -/
def merge (r s : Report) : Report := r.extend s.violations

/-- The violations of one field, in order. -/
def forField (r : Report) (field : String) : List Violation :=
  r.violations.filter fun v => v.field = field

/-- The violations in words with a separator between them. -/
def render (separator : String) (r : Report) : String :=
  separator.intercalate (r.violations.map Violation.display)

/-- The separator of `display`. -/
def separator : String := "; "

/-- The violations in words. -/
def display (r : Report) : String := r.render separator

/-- The given value when nothing was violated, else the report. -/
def intoResult {α : Type} (r : Report) (value : α) : Except Report α :=
  if r.isValid then .ok value else .error r

@[simp] theorem violations_merge (r s : Report) :
    (r.merge s).violations = r.violations ++ s.violations := rfl

@[simp] theorem merge_empty (r : Report) : r.merge .empty = r :=
  congrArg mk (List.append_nil r.violations)

@[simp] theorem empty_merge (r : Report) : Report.empty.merge r = r := rfl

@[simp] theorem render_empty (separator : String) : Report.empty.render separator = "" := rfl

theorem isValid_iff (r : Report) : r.isValid = true ↔ r = .empty := by
  cases r with
  | mk vs => cases vs <;> simp [isValid, empty]

/-- Picking a field passes through merging. -/
theorem forField_merge (r s : Report) (field : String) :
    (r.merge s).forField field = r.forField field ++ s.forField field := by
  simp [forField]

end Report

/-! ## 3. Checks -/

/-- Why a check failed. -/
inductive CheckError where
  /-- The data violates rules. -/
  | rejected (report : Report)
  /-- A rule or a schema is broken. -/
  | infrastructure (error : SetupError)
  deriving DecidableEq, Repr

namespace CheckError

/-- The failure in words. -/
def message : CheckError → String
  | .rejected report => "validation failed: " ++ report.display
  | .infrastructure error => error.message

/-- The report, when the data was rejected. -/
def report? : CheckError → Option Report
  | .rejected report => some report
  | .infrastructure _ => none

/-- Whether the data was rejected. -/
def isRejected : CheckError → Bool
  | .rejected _ => true
  | .infrastructure _ => false

end CheckError

end RecordRules
