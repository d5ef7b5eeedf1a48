import RecordRules.SetupError

/-!
# Records and their fields

A record is what a validation looks at: an ordered list of fields, each with its name, its rule and
its value, or the reason why there are no fields to look at. A value is a leaf (a string, an
integer, a sequence of either, something without conditions, or something that is not of its
declared kind) or a record again, so records are finite trees.

A source of records gives one record per annotation key; the records here are those of one key.
-/

namespace RecordRules

/-- A value that is no record. -/
inductive Leaf where
  /-- A string. -/
  | str (s : String)
  /-- An integer. -/
  | int (n : Int)
  /-- A sequence of strings. -/
  | strSeq (items : List String)
  /-- A sequence of integers. -/
  | intSeq (items : List Int)
  /-- Something that takes no conditions, known by the name of its type. -/
  | other (typeName : String)
  /-- Something that is not of its declared kind. -/
  | mismatch (expected : FieldKind) (actual : String)
  deriving DecidableEq, Repr

mutual

/-- The value of a field. -/
inductive FieldValue where
  /-- A value that is no record. -/
  | leaf (value : Leaf)
  /-- A nested record. -/
  | record (inner : Record)

/-- A field that carries a rule. -/
inductive Field where
  /-- A field with its name, its rule and its value. -/
  | mk (name rule : String) (value : FieldValue)

/-- What there is to validate. -/
inductive Record where
  /-- Nothing, for a reason. -/
  | unreadable (error : SetupError)
  /-- The fields in order. -/
  | ofFields (fields : List Field)

end

deriving instance Repr for FieldValue, Field, Record

instance : Inhabited Record := ⟨.ofFields []⟩

namespace Field

/-- The name of the field. -/
def name : Field → String
  | .mk name _ _ => name

/-- The rule of the field. -/
def rule : Field → String
  | .mk _ rule _ => rule

/-- The value of the field. -/
def value : Field → FieldValue
  | .mk _ _ value => value

end Field

/-- The kind that a leaf was declared with. -/
def Leaf.kind : Leaf → FieldKind
  | .str _ => .string
  | .int _ => .int
  | .strSeq _ => .stringSeq
  | .intSeq _ => .intSeq
  | .other _ => .other
  | .mismatch expected _ => expected

/-- The kind that a value was declared with. -/
def FieldValue.kind : FieldValue → FieldKind
  | .leaf v => v.kind
  | .record _ => .record

/-- The fields of a record, or the reason why there are none. -/
def Record.fields : Record → Except SetupError (List Field)
  | .unreadable error => .error error
  | .ofFields fields => .ok fields

end RecordRules
