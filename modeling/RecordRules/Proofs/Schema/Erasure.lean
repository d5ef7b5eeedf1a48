import RecordRules.Proofs.Schema.Binding
import RecordRules.Validate

/-!
# Dead parts of a schema

Under one annotation key most of a schema may be dead: the fields without a rule under that key,
the rules under other keys, the schemas nested in fields that are no records. A record field
without a nested schema is as good as one with the empty schema.

* `Schema.erase` takes the dead parts out, at every level;
* `Schema.Alive` says of a schema that it has no dead parts, and `erase_alive` that nothing dead is
  left;
* `bind_erase`: both schemas make the same record of every value.

**`erase_validates_alike`** says it of whole validations.
-/

namespace RecordRules

namespace Schema

/-! ## 1. Erasing -/

mutual

/-- The schema without the parts that are dead under a key. -/
def erase (key : String) : Schema → Schema
  | .ofFields fields => .ofFields (eraseFields key fields)

/-- The fields with a rule under the key, with nothing but that rule. A record always gets a nested
    schema, and no other field does. -/
def eraseFields (key : String) : List SchemaField → List SchemaField
  | [] => []
  | .mk name kind tags nested :: fields =>
    match tags.get? key with
    | none => eraseFields key fields
    | some rule =>
      .mk name kind (Tags.empty.insert key rule)
          (if kind = .record then some (eraseNested key nested) else none)
        :: eraseFields key fields

/-- A nested schema without its dead parts; in place of none the empty one. -/
def eraseNested (key : String) : Option Schema → Schema
  | none => .empty
  | some schema => erase key schema

end

mutual

/-- A schema without dead parts under a key. -/
inductive Alive (key : String) : Schema → Prop where
  /-- A schema by its fields. -/
  | ofFields {fields : List SchemaField} (h : FieldsAlive key fields) : Alive key (.ofFields fields)

/-- Fields that have a rule under the key and no other, and a nested schema when they are records
    and only then. -/
inductive FieldsAlive (key : String) : List SchemaField → Prop where
  /-- No fields. -/
  | nil : FieldsAlive key []
  /-- A field that is no record. -/
  | leaf (name rule : String) {kind : FieldKind} {fields : List SchemaField}
      (hkind : kind ≠ .record) (hs : FieldsAlive key fields) :
      FieldsAlive key (.mk name kind (Tags.empty.insert key rule) none :: fields)
  /-- A record. -/
  | record (name rule : String) {schema : Schema} {fields : List SchemaField}
      (h : Alive key schema) (hs : FieldsAlive key fields) :
      FieldsAlive key (.mk name .record (Tags.empty.insert key rule) (some schema) :: fields)

end

section Erasing

variable (key : String)

@[simp] theorem erase_ofFields (fields : List SchemaField) :
    erase key (.ofFields fields) = .ofFields (eraseFields key fields) := by
  rw [erase]

@[simp] theorem eraseFields_nil : eraseFields key [] = [] := by
  rw [eraseFields]

theorem eraseFields_cons (name : String) (kind : FieldKind) (tags : Tags) (nested : Option Schema)
    (fields : List SchemaField) :
    eraseFields key (.mk name kind tags nested :: fields)
      = ((tags.get? key).map fun rule =>
          SchemaField.mk name kind (Tags.empty.insert key rule)
            (if kind = .record then some (eraseNested key nested) else none)).toList
        ++ eraseFields key fields := by
  rw [eraseFields]
  cases tags.get? key <;> rfl

mutual

/-- **Nothing dead is left.** -/
theorem erase_alive : ∀ schema : Schema, (erase key schema).Alive key
  | .ofFields fields => by
      rw [erase_ofFields]
      exact .ofFields (eraseFields_alive fields)

theorem eraseFields_alive : ∀ fields : List SchemaField, FieldsAlive key (eraseFields key fields)
  | [] => by
      rw [eraseFields_nil]
      exact .nil
  | .mk name kind tags nested :: fields => by
      have hrest := eraseFields_alive fields
      rw [eraseFields_cons]
      cases tags.get? key with
      | none => exact hrest
      | some rule =>
          by_cases hkind : kind = .record
          · rw [if_pos hkind, hkind]
            exact .record name rule (eraseNested_alive nested) hrest
          · rw [if_neg hkind]
            exact .leaf name rule hkind hrest

theorem eraseNested_alive : ∀ nested : Option Schema, (eraseNested key nested).Alive key
  | none => by
      rw [eraseNested]
      exact .ofFields .nil
  | some schema => by
      rw [eraseNested]
      exact erase_alive schema

end

end Erasing

/-! ## 2. The same record -/

section Binding

variable (key : String)

mutual

/-- **Both schemas make the same record of every value.** -/
theorem bind_erase : ∀ (schema : Schema) (value : Json),
    bind key value (erase key schema) = bind key value schema
  | .ofFields fields, .object members => by
      rw [erase_ofFields, bind_object, bind_object, bindFields_eraseFields fields members]
  | .ofFields _, .null | .ofFields _, .bool _ | .ofFields _, .number _ | .ofFields _, .string _
  | .ofFields _, .array _ => by rw [bind_not_object key rfl, bind_not_object key rfl]

theorem bindFields_eraseFields : ∀ (fields : List SchemaField) (members : List (String × Json)),
    bindFields key members (eraseFields key fields) = bindFields key members fields
  | [], members => by rw [eraseFields_nil]
  | .mk name kind tags nested :: fields, members => by
      have hrest := bindFields_eraseFields fields members
      rw [eraseFields_cons, bindFields_cons]
      cases tags.get? key with
      | none => exact hrest
      | some rule =>
          have hvalue : bindMember key kind
                (if kind = .record then some (eraseNested key nested) else none)
                (Json.member? name members)
              = bindMember key kind nested (Json.member? name members) := by
            by_cases hkind : kind = .record
            · rw [if_pos hkind, hkind]
              exact bindMember_eraseNested nested _
            · exact bindMember_of_ne key hkind _ _ _
          simp only [Option.map_some, Option.toList_some, List.cons_append, List.nil_append]
          rw [bindFields_cons, Tags.get?_insert_self, hrest, hvalue]
          rfl

theorem bindMember_eraseNested : ∀ (nested : Option Schema) (member : Option Json),
    bindMember key .record (some (eraseNested key nested)) member
      = bindMember key .record nested member
  | nested, none => by rw [bindMember, bindMember]
  | none, some (.object inside) => by
      rw [bindMember_object, bindMember_object, eraseNested]
      rfl
  | some schema, some (.object inside) => by
      rw [bindMember_object, bindMember_object, eraseNested, Option.getD_some, Option.getD_some,
        bind_erase schema (.object inside)]
  | _, some .null | _, some (.bool _) | _, some (.number _) | _, some (.string _)
  | _, some (.array _) => by
      rw [bindMember_not_object key _ rfl, bindMember_not_object key _ rfl]

end

end Binding

/-- **Dead parts of a schema never matter.** Without them a schema has nothing but live parts, and
    under it every value, object or not, is validated with the same events to the same report or the
    same error. -/
theorem erase_validates_alike [PatternEngine] (config : Config) (schema : Schema) (value : Json) :
    (schema.erase config.annotationKey).Alive config.annotationKey ∧
      config.validate (bind config.annotationKey value (schema.erase config.annotationKey))
        = config.validate (bind config.annotationKey value schema) := by
  refine ⟨erase_alive _ schema, ?_⟩
  rw [bind_erase]

end Schema

end RecordRules
