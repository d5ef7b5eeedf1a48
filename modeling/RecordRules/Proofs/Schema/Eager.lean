import Mathlib.Data.List.Forall2
import RecordRules.Proofs.Schema.Binding

/-!
# Records bound before a key is known

A value can be put under a schema once for all keys. Then the records inside it are made at once,
one for every declared field that may hold one, and stand beside the declared fields; which of the
fields there are is decided only when a key is given, and each takes its value from the declared
field and the record that stand in one place.

* `EagerRecord.of` makes the records inside, `EagerRecord.fields` gives the fields under a key;
* `EagerRecord.Holds` says which record stands beside a declared field, and `childrenOf_aligned`
  that it does, field by field;
* `EagerRecord.Shows` is the record that is seen when every record inside is asked under one key;
  what is seen is what `Schema.bind` makes (`of_shows_bind`).

**`eager_represents`** says that such a record stands for its schema and its object.
-/

namespace RecordRules

/-! ## 1. Records before a key is known -/

/-- A value under a schema, with the records inside it. -/
inductive EagerRecord where
  /-- A schema, a value, and beside every declared field the record that it holds, if any. -/
  | mk (schema : Schema) (value : Json) (children : List (Option EagerRecord))

/-- The value of a field before a key is known below it. -/
inductive EagerValue where
  /-- A value that is no record. -/
  | leaf (value : Leaf)
  /-- A nested record. -/
  | record (inner : EagerRecord)

/-- A field with a rule, before a key is known below it. -/
structure EagerField where
  /-- The name. -/
  name : String
  /-- The rule. -/
  rule : String
  /-- The value. -/
  value : EagerValue

namespace EagerRecord

/-- The records beside the declared fields. -/
def children : EagerRecord → List (Option EagerRecord)
  | .mk _ _ children => children

mutual

/-- A value under a schema. -/
def of (value : Json) : Schema → EagerRecord
  | .ofFields declared => .mk (.ofFields declared) value (childrenOf value declared)

/-- The records beside declared fields. -/
def childrenOf (value : Json) : List SchemaField → List (Option EagerRecord)
  | [] => []
  | field :: declared => childOf value field :: childrenOf value declared

/-- The record beside a declared field: there is one when the field is declared as a record and its
    member is an object. -/
def childOf (value : Json) : SchemaField → Option EagerRecord
  | .mk name kind _ nested =>
    if kind = .record then
      ((value.get? name).filter Json.isObject).map fun member => nestedOf member nested
    else none

/-- A value under a nested schema; without one no field is declared. -/
def nestedOf (value : Json) : Option Schema → EagerRecord
  | none => .mk .empty value []
  | some schema => of value schema

end

/-- The value of a declared field from its member and the record beside it. -/
def valueOf (field : SchemaField) (child : Option EagerRecord) : Option Json → EagerValue
  | none => .leaf (.mismatch field.kind missingMember)
  | some value =>
    let typed :=
      if field.kind = .record then child.map .record else (Leaf.ofJson? field.kind value).map .leaf
    typed.getD (.leaf (.mismatch field.kind value.describe))

/-- A declared field under a key, when it has a rule there. -/
def fieldOf? (key : String) (members : List (String × Json)) :
    SchemaField × Option EagerRecord → Option EagerField
  | (field, child) => (field.tags.get? key).map fun rule =>
      ⟨field.name, rule, valueOf field child (Json.member? field.name members)⟩

/-- The fields under a key. Only an object has any. -/
def fields (key : String) : EagerRecord → Except SetupError (List EagerField)
  | .mk schema (.object members) children =>
    .ok ((schema.fields.zip children).filterMap (fieldOf? key members))
  | .mk _ value _ => .error (.notARecord value.typeName)

/-! ## 2. The record beside a declared field -/

/-- The record that a declared field of an object holds: it is declared as a record, its member is
    an object, and the nested schema, or else the empty one, is put over that object. -/
def Holds (members : List (String × Json)) (field : SchemaField) (inner : EagerRecord) : Prop :=
  field.kind = .record ∧ ∃ inside, Json.member? field.name members = some (.object inside) ∧
    inner = of (.object inside) (field.nested.getD .empty)

theorem nestedOf_eq (value : Json) (nested : Option Schema) :
    nestedOf value nested = of value (nested.getD .empty) := by
  cases nested with
  | none => rw [nestedOf, Option.getD_none, Schema.empty, of, childrenOf]
  | some schema => rw [nestedOf, Option.getD_some]

theorem exists_of_isObject : ∀ {value : Json}, value.isObject = true →
    ∃ members, value = .object members
  | .object members, _ => ⟨members, rfl⟩

/-- The record beside a declared field is the one that the field holds. -/
theorem childOf_eq_some_iff (members : List (String × Json)) (inner : EagerRecord) :
    ∀ field : SchemaField,
      childOf (.object members) field = some inner ↔ Holds members field inner
  | .mk name kind tags nested => by
      rw [childOf]
      by_cases hkind : kind = .record
      · rw [if_pos hkind]
        constructor
        · intro h
          obtain ⟨member, hfilter, rfl⟩ := Option.map_eq_some_iff.mp h
          obtain ⟨hmember, hobject⟩ := Option.filter_eq_some_iff.mp hfilter
          obtain ⟨inside, rfl⟩ := exists_of_isObject hobject
          exact ⟨hkind, inside, hmember, nestedOf_eq _ nested⟩
        · rintro ⟨-, inside, hmember, rfl⟩
          refine Option.map_eq_some_iff.mpr ⟨.object inside, ?_, nestedOf_eq _ nested⟩
          exact Option.filter_eq_some_iff.mpr ⟨hmember, rfl⟩
      · rw [if_neg hkind]
        constructor
        · intro h
          cases h
        · rintro ⟨hrecord, -⟩
          exact absurd hrecord hkind

/-- **The records inside stand beside the fields that hold them**, and beside every other field
    stands none. -/
theorem childrenOf_aligned (members : List (String × Json)) : ∀ declared : List SchemaField,
    List.Forall₂ (fun field child => ∀ inner, child = some inner ↔ Holds members field inner)
      declared (childrenOf (.object members) declared)
  | [] => by
      rw [childrenOf]
      exact .nil
  | field :: declared => by
      rw [childrenOf]
      exact .cons (fun inner => childOf_eq_some_iff members inner field)
        (childrenOf_aligned members declared)

/-- The value of a declared field is a record exactly when the field holds one. -/
theorem valueOf_eq_record_iff (members : List (String × Json)) (field : SchemaField)
    (inner : EagerRecord) :
    valueOf field (childOf (.object members) field) (Json.member? field.name members)
        = .record inner
      ↔ Holds members field inner := by
  have hchild := childOf_eq_some_iff members inner field
  cases hmember : Json.member? field.name members with
  | none =>
      constructor
      · intro h
        cases h
      · rintro ⟨-, inside, hinside, -⟩
        rw [hmember] at hinside
        cases hinside
  | some value =>
      rw [valueOf, ← hchild]
      by_cases hkind : field.kind = .record
      · rw [if_pos hkind]
        cases childOf (.object members) field with
        | none =>
            constructor
            · intro h
              cases h
            · intro h
              cases h
        | some child =>
            rw [Option.map_some, Option.getD_some, EagerValue.record.injEq, Option.some.injEq]
      · rw [if_neg hkind, hchild]
        constructor
        · intro h
          cases hleaf : Leaf.ofJson? field.kind value with
          | none =>
              rw [hleaf] at h
              cases h
          | some v =>
              rw [hleaf] at h
              cases h
        · rintro ⟨hrecord, -⟩
          exact absurd hrecord hkind

/-! ## 3. The fields under a key -/

theorem fields_object (key : String) (members : List (String × Json))
    (declared : List SchemaField) :
    (of (.object members) (.ofFields declared)).fields key
      = .ok ((declared.zip (childrenOf (.object members) declared)).filterMap
          (fieldOf? key members)) := by
  rw [of]
  rfl

/-- What a field under a key says of the declared field it stands for. -/
structure Represents (key : String) (members : List (String × Json)) (field : SchemaField)
    (seen : EagerField) : Prop where
  /-- The name is the declared one. -/
  name : seen.name = field.name
  /-- The rule is the one under the key. -/
  rule : field.tags.get? key = some seen.rule
  /-- The value is a record exactly when the declared field holds one, and it is that one. -/
  value : ∀ inner, seen.value = .record inner ↔ Holds members field inner

/-- **There is one field for every declared field with a rule under the key**, in the same order. -/
theorem fields_represent (key : String) (members : List (String × Json)) :
    ∀ declared : List SchemaField,
      List.Forall₂ (Represents key members)
        (declared.filter fun field => (field.tags.get? key).isSome)
        ((declared.zip (childrenOf (.object members) declared)).filterMap (fieldOf? key members))
  | [] => .nil
  | field :: declared => by
      have hrest := fields_represent key members declared
      rw [childrenOf, List.zip_cons_cons]
      cases hrule : field.tags.get? key with
      | none =>
          have hnone : fieldOf? key members (field, childOf (.object members) field) = none := by
            rw [fieldOf?, hrule]
            rfl
          rw [List.filter_cons_of_neg (by rw [hrule]; decide), List.filterMap_cons_none hnone]
          exact hrest
      | some rule =>
          have hsome : fieldOf? key members (field, childOf (.object members) field)
              = some ⟨field.name, rule, valueOf field (childOf (.object members) field)
                  (Json.member? field.name members)⟩ := by
            rw [fieldOf?, hrule]
            rfl
          rw [List.filter_cons_of_pos (by rw [hrule]; rfl), List.filterMap_cons_some hsome]
          exact .cons ⟨rfl, hrule, valueOf_eq_record_iff members field⟩ hrest

/-! ## 4. What is seen under one key -/

mutual

/-- The record that is seen when an eager record, and every one inside it, is asked for its fields
    under one key. -/
inductive Shows (key : String) : EagerRecord → Record → Prop where
  /-- There are no fields. -/
  | unreadable {r : EagerRecord} {e : SetupError} (h : r.fields key = .error e) :
      Shows key r (.unreadable e)
  /-- The fields, with the records in them as they are seen. -/
  | ofFields {r : EagerRecord} {fs : List EagerField} {gs : List Field}
      (h : r.fields key = .ok fs) (hs : FieldsShow key fs gs) : Shows key r (.ofFields gs)

/-- Fields as they are seen. -/
inductive FieldsShow (key : String) : List EagerField → List Field → Prop where
  /-- No fields. -/
  | nil : FieldsShow key [] []
  /-- A leaf in front. -/
  | leaf (name rule : String) (v : Leaf) {fs : List EagerField} {gs : List Field}
      (hs : FieldsShow key fs gs) :
      FieldsShow key (⟨name, rule, .leaf v⟩ :: fs) (.mk name rule (.leaf v) :: gs)
  /-- A nested record in front. -/
  | record (name rule : String) {inner : EagerRecord} {r : Record} {fs : List EagerField}
      {gs : List Field} (h : Shows key inner r) (hs : FieldsShow key fs gs) :
      FieldsShow key (⟨name, rule, .record inner⟩ :: fs) (.mk name rule (.record r) :: gs)

end

section Unique

variable {key : String}

mutual

/-- **There is one record to be seen.** -/
theorem Shows.unique : ∀ {r : EagerRecord} {s t : Record}, r.Shows key s → r.Shows key t → s = t
  | _, _, _, .unreadable h, .unreadable h' => by
      rw [h] at h'
      cases h'
      rfl
  | _, _, _, .unreadable h, .ofFields h' _ => by
      rw [h] at h'
      cases h'
  | _, _, _, .ofFields h _, .unreadable h' => by
      rw [h] at h'
      cases h'
  | _, _, _, .ofFields h hs, .ofFields h' hs' => by
      rw [h] at h'
      cases h'
      rw [hs.unique hs']

theorem FieldsShow.unique : ∀ {fs : List EagerField} {gs hs : List Field},
    FieldsShow key fs gs → FieldsShow key fs hs → gs = hs
  | _, _, _, .nil, .nil => rfl
  | _, _, _, .leaf name rule v hs, .leaf _ _ _ hs' => by rw [hs.unique hs']
  | _, _, _, .record name rule h hs, .record _ _ h' hs' => by rw [h.unique h', hs.unique hs']

end

end Unique

/-- A declared field that holds no record is a leaf, whichever way it is read. -/
theorem exists_leaf_of_childOf_eq_none (key : String) (members : List (String × Json))
    {field : SchemaField} (h : childOf (.object members) field = none) :
    ∃ v, valueOf field none (Json.member? field.name members) = .leaf v ∧
      Schema.bindMember key field.kind field.nested (Json.member? field.name members)
        = .leaf v := by
  cases hmember : Json.member? field.name members with
  | none => exact ⟨.mismatch field.kind missingMember, rfl, by rw [Schema.bindMember]⟩
  | some value =>
      rw [valueOf]
      by_cases hkind : field.kind = .record
      · have hobject : value.isObject = false := by
          refine Bool.eq_false_iff.mpr fun hobject => ?_
          obtain ⟨inside, rfl⟩ := exists_of_isObject hobject
          have hholds : Holds members field _ := ⟨hkind, inside, hmember, rfl⟩
          rw [(childOf_eq_some_iff members _ field).mpr hholds] at h
          cases h
        rw [if_pos hkind, hkind, Schema.bindMember_not_object key _ hobject]
        exact ⟨_, rfl, rfl⟩
      · rw [if_neg hkind, Schema.bindMember, if_neg hkind]
        cases Leaf.ofJson? field.kind value with
        | none => exact ⟨_, rfl, rfl⟩
        | some v => exact ⟨v, rfl, rfl⟩

section Shows

variable (key : String)

mutual

/-- **What is seen of a value under a schema is the record that the schema makes of it.** -/
theorem of_shows_bind : ∀ (schema : Schema) (value : Json),
    (of value schema).Shows key (Schema.bind key value schema)
  | .ofFields declared, .object members => by
      rw [Schema.bind_object]
      exact .ofFields (fields_object key members declared) (fields_show_bindFields declared members)
  | .ofFields declared, .null | .ofFields declared, .bool _ | .ofFields declared, .number _
  | .ofFields declared, .string _ | .ofFields declared, .array _ => by
      rw [of, Schema.bind_not_object key rfl]
      exact .unreadable rfl

theorem fields_show_bindFields : ∀ (declared : List SchemaField) (members : List (String × Json)),
    FieldsShow key
      ((declared.zip (childrenOf (.object members) declared)).filterMap (fieldOf? key members))
      (Schema.bindFields key members declared)
  | [], members => by
      rw [Schema.bindFields_nil]
      exact .nil
  | .mk name kind tags nested :: declared, members => by
      have hrest := fields_show_bindFields declared members
      rw [childrenOf, List.zip_cons_cons, Schema.bindFields_cons]
      cases hrule : tags.get? key with
      | none =>
          rw [List.filterMap_cons_none (by rw [fieldOf?, SchemaField.tags, hrule]; rfl)]
          exact hrest
      | some rule =>
          rw [List.filterMap_cons_some (by rw [fieldOf?, SchemaField.tags, hrule]; rfl)]
          cases hchild : childOf (.object members) (.mk name kind tags nested) with
          | none =>
              obtain ⟨v, hvalue, hmember⟩ := exists_leaf_of_childOf_eq_none key members hchild
              rw [hvalue]
              exact hmember ▸ .leaf name rule v hrest
          | some inner =>
              have hholds := (childOf_eq_some_iff members inner _).mp hchild
              have hvalue := (valueOf_eq_record_iff members _ inner).mpr hholds
              rw [hchild] at hvalue
              obtain ⟨hkind, inside, hmember, rfl⟩ := hholds
              have hbind : Schema.bindMember key kind nested (Json.member? name members)
                  = .record (Schema.bind key (.object inside) (nested.getD .empty)) := by
                rw [show kind = .record from hkind,
                  show Json.member? name members = some (.object inside) from hmember,
                  Schema.bindMember_object]
              rw [hvalue, hbind]
              exact .record name rule (nested_shows_bind nested inside) hrest

theorem nested_shows_bind : ∀ (nested : Option Schema) (inside : List (String × Json)),
    (of (.object inside) (nested.getD .empty)).Shows key
      (Schema.bind key (.object inside) (nested.getD .empty))
  | none, inside => by
      rw [Option.getD_none, Schema.empty, Schema.bind_object, Schema.bindFields_nil]
      exact .ofFields (fields_object key inside []) .nil
  | some schema, inside => of_shows_bind schema (.object inside)

end

end Shows

/-! ## 5. Schemas and objects -/

/-- **An eager record stands for its schema and its object.** The records inside it stand beside
    the declared fields that hold them. Under every key it has fields, one for every declared field
    with a rule there; and when it is asked under that key all the way down, what is seen is the
    record that is validated, and no other. -/
theorem eager_represents (schema : Schema) (members : List (String × Json)) :
    List.Forall₂ (fun field child => ∀ inner, child = some inner ↔ Holds members field inner)
        schema.fields (of (.object members) schema).children ∧
      ∀ key, ∃ seen, (of (.object members) schema).fields key = .ok seen ∧
        List.Forall₂ (Represents key members)
          (schema.fields.filter fun field => (field.tags.get? key).isSome) seen ∧
        ∀ record, (of (.object members) schema).Shows key record
          ↔ record = Schema.bind key (.object members) schema := by
  obtain ⟨declared⟩ := schema
  refine ⟨?_, fun key => ⟨_, fields_object key members declared, ?_, ?_⟩⟩
  · rw [of]
    exact childrenOf_aligned members declared
  · exact fields_represent key members declared
  · intro record
    have hbind := of_shows_bind key (.ofFields declared) (.object members)
    constructor
    · intro h
      exact h.unique hbind
    · rintro rfl
      exact hbind

end EagerRecord

end RecordRules
