import RecordRules.Json.Basic
import RecordRules.Record.Basic
import RecordRules.Schema.Basic

/-!
# JSON values as records

A schema makes a record of a JSON object. Under an annotation key the record has a field for every
declared field with a rule under that key, in the order of the schema. The declared kind decides
which values are taken; a value of another shape, and a member that is missing, become a mismatch
of that one field. A nested record is looked at only when the member is an object; a value that is
no object makes no record at the top alone.
-/

namespace RecordRules

/-! ## 1. Values of the declared kind -/

/-- The value of a declared kind other than a record, when the value has it. -/
def Leaf.ofJson? : FieldKind → Json → Option Leaf
  | .string, value => value.asString?.map .str
  | .int, value => value.asInt?.map .int
  | .stringSeq, .array items => (items.mapM Json.asString?).map .strSeq
  | .intSeq, .array items => (items.mapM Json.asInt?).map .intSeq
  | .other, value => some (.other value.typeName)
  | _, _ => none

/-- Whether a value is a string. -/
def Json.isString (value : Json) : Bool := value.asString?.isSome

/-- Whether a value is an integer of 64 bits with a sign. -/
def Json.isInt (value : Json) : Bool := value.asInt?.isSome

/-- What a value is, in words. An array is told by its first element that is neither a string nor
    an integer, or else by what its elements are. -/
def Json.describe : Json → String
  | .array items =>
    match items.find? fun item => !item.isString && !item.isInt with
    | some item => "array containing " ++ item.typeName
    | none =>
      if items.any Json.isString && items.any Json.isInt then "array of mixed elements"
      else if items.any Json.isString then "array of string"
      else "array of int"
  | value => value.typeName

/-- What is reported for a member that is not there. -/
def missingMember : String := "missing"

/-! ## 2. Records -/

namespace Schema

mutual

/-- The record that a schema makes of a value, under an annotation key. -/
def bind (key : String) (value : Json) : Schema → Record
  | .ofFields fields =>
    match value with
    | .object members => .ofFields (bindFields key members fields)
    | value => .unreadable (.notARecord value.typeName)

/-- The fields with a rule under the key. -/
def bindFields (key : String) (members : List (String × Json)) : List SchemaField → List Field
  | [] => []
  | .mk name kind tags nested :: fields =>
    match tags.get? key with
    | none => bindFields key members fields
    | some rule =>
      .mk name rule (bindMember key kind nested (Json.member? name members))
        :: bindFields key members fields

/-- The value of a declared field. -/
def bindMember (key : String) (kind : FieldKind) (nested : Option Schema) :
    Option Json → FieldValue
  | none => .leaf (.mismatch kind missingMember)
  | some value =>
    if kind = .record then
      if value.isObject then .record (bindNested key value nested)
      else .leaf (.mismatch kind value.describe)
    else .leaf ((Leaf.ofJson? kind value).getD (.mismatch kind value.describe))

/-- The record of a nested schema; without one no field has a rule. -/
def bindNested (key : String) (value : Json) : Option Schema → Record
  | none => .ofFields []
  | some schema => bind key value schema

end

end Schema

end RecordRules
