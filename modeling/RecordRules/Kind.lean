/-!
# Kinds of fields

The declared kind of a field decides how its value is read and which conditions can be put on it.
-/

namespace RecordRules

/-- The declared kind of a field. -/
inductive FieldKind where
  /-- A single string. -/
  | string
  /-- A single integer. -/
  | int
  /-- A sequence of strings. -/
  | stringSeq
  /-- A sequence of integers. -/
  | intSeq
  /-- A nested record. -/
  | record
  /-- Anything without conditions of its own. -/
  | other
  deriving DecidableEq, Repr

namespace FieldKind

/-- The name of a kind. -/
def name : FieldKind → String
  | .string => "string"
  | .int => "int"
  | .stringSeq => "string_seq"
  | .intSeq => "int_seq"
  | .record => "record"
  | .other => "other"

/-- The kind of a name; a name of no kind stands for `other`. -/
def ofName (name : String) : FieldKind :=
  match name with
  | "string" => .string
  | "int" => .int
  | "string_seq" => .stringSeq
  | "int_seq" => .intSeq
  | "record" => .record
  | _ => .other

/-- Every kind is read back from its name. -/
@[simp] theorem ofName_name (kind : FieldKind) : ofName kind.name = kind := by
  cases kind <;> rfl

end FieldKind

end RecordRules
