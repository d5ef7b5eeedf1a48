import RecordRules.Json.Decode
import RecordRules.Schema.Basic

/-!
# Schemas as JSON

A schema is written as an object with its fields in order. A field leaves its rules out when it has
none, and its nested schema when it has none.

Decoding takes more than is written. Instead of an object a positional array may stand for a schema
or a field; members that are not known are skipped; the fields of a schema, the rules and the
nested schema of a field may be missing, and the latter may be `null`.
-/

namespace RecordRules

/-! ## 1. Writing -/

/-- Rules as an object. -/
def Tags.toJson (tags : Tags) : Json :=
  .object (tags.entries.map fun (key, rule) => (key, .string rule))

namespace Schema

mutual

/-- The written form of a schema as a value. -/
def toJson : Schema → Json
  | .ofFields fields => .object [("fields", .array (fieldsToJson fields))]

/-- The written forms of fields. -/
def fieldsToJson : List SchemaField → List Json
  | [] => []
  | field :: fields => fieldToJson field :: fieldsToJson fields

/-- The written form of a field. -/
def fieldToJson : SchemaField → Json
  | .mk name kind tags nested =>
    .object ([("name", .string name), ("kind", .string kind.name)]
      ++ (if tags.isEmpty then [] else [("tags", tags.toJson)]) ++ nestedToJson nested)

/-- The member of a nested schema. -/
def nestedToJson : Option Schema → List (String × Json)
  | none => []
  | some schema => [("schema", toJson schema)]

end

/-- The written form of a schema. -/
def text (schema : Schema) : String := schema.toJson.print

/-! ## 2. Decoding -/

/-- A kind by its name. -/
def kindOf (d : Draft) : Decoded FieldKind := d.variant fun name => .ok (FieldKind.ofName name)

/-- Rules as the members of an object, behind those already at hand. -/
def tagsOf (tags : Tags) : List DraftMember → Closing → Decoded Tags
  | [], closing => (Draft.finish closing).map fun _ => tags
  | .mk name value :: members, closing => do
    let key ← name.memberKey
    let rule ← value.asText
    tagsOf (tags.insert key rule) members closing

/-- Rules as an object. -/
def decodeTags : Draft → Decoded Tags
  | .object members closing => tagsOf .empty members closing
  | d => .error (d.mismatch "a map")

/-- The parts of a field met so far. -/
structure FieldParts where
  /-- The name. -/
  name : Option String := none
  /-- The kind. -/
  kind : Option FieldKind := none
  /-- The rules. -/
  tags : Option Tags := none
  /-- The nested schema, which may be given as none. -/
  nested : Option (Option Schema) := none

/-- The field of its parts; the name and the kind must be there. -/
def FieldParts.field (p : FieldParts) : Decoded SchemaField :=
  match p.name, p.kind with
  | none, _ => .error (.missingField "name")
  | _, none => .error (.missingField "kind")
  | some name, some kind => .ok (.mk name kind (p.tags.getD .empty) (p.nested.getD none))

/-- What a field is called in messages. -/
def fieldShape : String := "struct SchemaField"

mutual

/-- A schema, as an object or as an array of its one part. -/
def decode : Draft → Decoded Schema
  | .array [] closing => (Draft.finish closing).map fun _ => empty
  | .array (first :: rest) closing => do
    let fields ← decodeFields first
    Draft.noMore rest closing
    pure (.ofFields fields)
  | .object members closing => decodeMembers none members closing
  | d => .error (d.mismatch "struct Schema")

/-- The members of a schema; `known` holds its fields when they were met. -/
def decodeMembers (known : Option (List SchemaField)) : List DraftMember → Closing → Decoded Schema
  | [], closing => (Draft.finish closing).map fun _ => .ofFields (known.getD [])
  | .mk name value :: members, closing => do
    let key ← name.memberKey
    if key = "fields" then
      if known.isSome then .error (.duplicateField "fields")
      else
        let fields ← decodeFields value
        decodeMembers (some fields) members closing
    else
      value.skip
      decodeMembers known members closing

/-- A sequence of fields. -/
def decodeFields : Draft → Decoded (List SchemaField)
  | .array items closing => decodeItems items closing
  | d => .error (d.mismatch "a sequence")

/-- Fields up to the end of their array. -/
def decodeItems : List Draft → Closing → Decoded (List SchemaField)
  | [], closing => (Draft.finish closing).map fun _ => []
  | item :: items, closing => do
    let field ← decodeField item
    let fields ← decodeItems items closing
    pure (field :: fields)

/-- A field, as an object or as an array of its parts in order. -/
def decodeField : Draft → Decoded SchemaField
  | .array items closing => decodePositions items closing
  | .object members closing => decodeFieldMembers {} members closing
  | d => .error (d.mismatch fieldShape)

/-- The parts of a field in order. The last two may be missing. -/
def decodePositions : List Draft → Closing → Decoded SchemaField
  | [], closing => do
    Draft.finish closing
    .error (.invalidLength 0 (fieldShape ++ " with 4 elements"))
  | [name], closing => do
    let _ ← name.asText
    Draft.finish closing
    .error (.invalidLength 1 (fieldShape ++ " with 4 elements"))
  | [name, kind], closing => do
    let name ← name.asText
    let kind ← kindOf kind
    Draft.finish closing
    pure (.mk name kind .empty none)
  | [name, kind, tags], closing => do
    let name ← name.asText
    let kind ← kindOf kind
    let tags ← decodeTags tags
    Draft.finish closing
    pure (.mk name kind tags none)
  | name :: kind :: tags :: nested :: rest, closing => do
    let name ← name.asText
    let kind ← kindOf kind
    let tags ← decodeTags tags
    let nested ← if nested.isNull then pure none else (decode nested).map some
    Draft.noMore rest closing
    pure (.mk name kind tags nested)

/-- The members of a field. -/
def decodeFieldMembers (parts : FieldParts) : List DraftMember → Closing → Decoded SchemaField
  | [], closing => do
    Draft.finish closing
    parts.field
  | .mk name value :: members, closing => do
    let key ← name.memberKey
    if key = "name" then
      if parts.name.isSome then .error (.duplicateField key)
      else
        let name ← value.asText
        decodeFieldMembers { parts with name := some name } members closing
    else if key = "kind" then
      if parts.kind.isSome then .error (.duplicateField key)
      else
        let kind ← kindOf value
        decodeFieldMembers { parts with kind := some kind } members closing
    else if key = "tags" then
      if parts.tags.isSome then .error (.duplicateField key)
      else
        let tags ← decodeTags value
        decodeFieldMembers { parts with tags := some tags } members closing
    else if key = "schema" then
      if parts.nested.isSome then .error (.duplicateField key)
      else
        let nested ← if value.isNull then pure none else (decode value).map some
        decodeFieldMembers { parts with nested := some nested } members closing
    else
      value.skip
      decodeFieldMembers parts members closing

end

/-- The schema of a text. -/
def ofText (text : String) : Decoded Schema := (Document.ofText text).decode decode

end Schema

end RecordRules
