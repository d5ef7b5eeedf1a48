import RecordRules.Kind
import RecordRules.Schema.Tags

/-!
# Schemas

A schema declares the fields of a JSON object in the order in which they are validated: their
names, their kinds, their rules, and for a nested record the schema of its fields.
-/

namespace RecordRules

mutual

/-- The declared fields of an object, in order. -/
inductive Schema where
  /-- A schema by its fields. -/
  | ofFields (fields : List SchemaField)

/-- A declared field. Without a nested schema the fields of a nested record carry no rules. -/
inductive SchemaField where
  /-- A field with its name, its kind, its rules and the schema nested in it. -/
  | mk (name : String) (kind : FieldKind) (tags : Tags) (nested : Option Schema)

end

namespace SchemaField

/-- The name of the field. -/
def name : SchemaField → String
  | .mk name _ _ _ => name

/-- The kind of the field. -/
def kind : SchemaField → FieldKind
  | .mk _ kind _ _ => kind

/-- The rules of the field. -/
def tags : SchemaField → Tags
  | .mk _ _ tags _ => tags

/-- The schema nested in the field. -/
def nested : SchemaField → Option Schema
  | .mk _ _ _ nested => nested

/-- A field without rules and without a nested schema. -/
def plain (name : String) (kind : FieldKind) : SchemaField := .mk name kind .empty none

/-- The field with one more rule, which takes the place of one under the same key. -/
def tag (key rule : String) : SchemaField → SchemaField
  | .mk name kind tags nested => .mk name kind (tags.insert key rule) nested

/-- The field with another nested schema. -/
def withSchema (schema : Schema) : SchemaField → SchemaField
  | .mk name kind tags _ => .mk name kind tags (some schema)

end SchemaField

namespace Schema

/-- The fields of the schema. -/
def fields : Schema → List SchemaField
  | .ofFields fields => fields

/-- The schema without fields. -/
def empty : Schema := .ofFields []

instance : Inhabited Schema := ⟨empty⟩

mutual

/-- Whether two schemas are the same. -/
def same : Schema → Schema → Bool
  | .ofFields fs, .ofFields gs => sameFields fs gs

/-- Whether two lists of fields are the same. -/
def sameFields : List SchemaField → List SchemaField → Bool
  | [], [] => true
  | f :: fs, g :: gs => sameField f g && sameFields fs gs
  | _, _ => false

/-- Whether two fields are the same. -/
def sameField : SchemaField → SchemaField → Bool
  | .mk name kind tags nested, .mk name' kind' tags' nested' =>
    name == name' && kind == kind' && decide (tags = tags') && sameNested nested nested'

/-- Whether two nested schemas are the same. -/
def sameNested : Option Schema → Option Schema → Bool
  | none, none => true
  | some s, some t => same s t
  | _, _ => false

end

end Schema

end RecordRules
