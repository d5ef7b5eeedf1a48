import RecordRules.Schema.Bind

/-!
# What a schema binds, piece by piece

What later proofs know of the record that a schema makes of a value is said here once, one equation
per piece: the value at the top (`bind_object`, `bind_not_object`), a declared field with a rule
under the key or without one (`bindFields_cons`, `mem_bindFields`), and the member of a declared
field by its kind (`bindMember_leaf`, `bindMember_not_object`, `bindMember_object`; together
`bindMember_cases`).
-/

namespace RecordRules

namespace Schema

variable (key : String)

@[simp] theorem bind_object (members : List (String × Json)) (declared : List SchemaField) :
    bind key (.object members) (.ofFields declared)
      = .ofFields (bindFields key members declared) := by
  rw [bind]

/-- A value that is no object cannot be read. -/
theorem bind_not_object {value : Json} (h : value.isObject = false) (schema : Schema) :
    bind key value schema = .unreadable (.notARecord value.typeName) := by
  cases schema with
  | ofFields declared =>
      rw [bind]
      intro members hobject
      rw [hobject] at h
      cases h

@[simp] theorem bindFields_nil (members : List (String × Json)) :
    bindFields key members [] = [] := by
  rw [bindFields]

/-- A declared field is there when it has a rule under the key. -/
theorem bindFields_cons (name : String) (kind : FieldKind) (tags : Tags) (nested : Option Schema)
    (members : List (String × Json)) (declared : List SchemaField) :
    bindFields key members (.mk name kind tags nested :: declared)
      = ((tags.get? key).map fun rule =>
          Field.mk name rule (bindMember key kind nested (Json.member? name members))).toList
        ++ bindFields key members declared := by
  rw [bindFields]
  cases tags.get? key <;> rfl

/-- A member of its declared kind becomes a leaf. -/
theorem bindMember_leaf {kind : FieldKind} (hkind : kind ≠ .record) (nested : Option Schema)
    {value : Json} {v : Leaf} (h : Leaf.ofJson? kind value = some v) :
    bindMember key kind nested (some value) = .leaf v := by
  rw [bindMember, if_neg hkind, h]
  rfl

/-- Only a record looks at its nested schema. -/
theorem bindMember_of_ne {kind : FieldKind} (hkind : kind ≠ .record)
    (nested nested' : Option Schema) (value : Option Json) :
    bindMember key kind nested value = bindMember key kind nested' value := by
  cases value with
  | none => rw [bindMember, bindMember]
  | some value => rw [bindMember, bindMember, if_neg hkind, if_neg hkind]

/-- A value that is no object is a mismatch under the kind of records. -/
theorem bindMember_not_object (nested : Option Schema) {value : Json} (h : value.isObject = false) :
    bindMember key .record nested (some value) = .leaf (.mismatch .record value.describe) := by
  rw [bindMember, if_pos rfl, if_neg (by rw [h]; decide)]

/-- An object under the kind of records becomes the record that the nested schema makes of it, and
    without one the record that the empty schema makes of it. -/
theorem bindMember_object (members : List (String × Json)) (nested : Option Schema) :
    bindMember key .record nested (some (.object members))
      = .record (bind key (.object members) (nested.getD .empty)) := by
  have hobject : (Json.object members).isObject = true := rfl
  rw [bindMember, if_pos rfl, if_pos hobject]
  cases nested with
  | none =>
      rw [bindNested, Option.getD_none, empty, bind_object, bindFields_nil]
  | some schema =>
      rw [bindNested, Option.getD_some]

/-- A member becomes a leaf, unless it is an object under the kind of records. -/
theorem bindMember_cases (kind : FieldKind) (nested : Option Schema) : ∀ member : Option Json,
    (∃ v, bindMember key kind nested member = .leaf v) ∨
      (kind = .record ∧ ∃ inside, member = some (.object inside))
  | none => Or.inl ⟨_, by rw [bindMember]⟩
  | some value => by
      by_cases hkind : kind = .record
      · cases value with
        | object inside => exact Or.inr ⟨hkind, inside, rfl⟩
        | null | bool b | number n | string s | array items =>
            rw [hkind, bindMember_not_object key nested rfl]
            exact Or.inl ⟨_, rfl⟩
      · rw [bindMember, if_neg hkind]
        exact Or.inl ⟨_, rfl⟩

/-- The field of a declared field with a rule is among the fields. -/
theorem mem_bindFields {name rule : String} {kind : FieldKind} {tags : Tags}
    {nested : Option Schema} (members : List (String × Json)) (hrule : tags.get? key = some rule) :
    ∀ {declared : List SchemaField}, SchemaField.mk name kind tags nested ∈ declared →
      Field.mk name rule (bindMember key kind nested (Json.member? name members))
        ∈ bindFields key members declared
  | [], h => absurd h List.not_mem_nil
  | .mk name' kind' tags' nested' :: declared, h => by
      rw [bindFields_cons, List.mem_append]
      rcases List.mem_cons.mp h with heq | hmem
      · cases heq
        left
        rw [hrule]
        exact List.mem_singleton_self _
      · exact Or.inr (mem_bindFields members hrule hmem)

end Schema

end RecordRules
