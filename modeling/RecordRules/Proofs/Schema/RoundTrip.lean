import RecordRules.Proofs.Json.Reading
import RecordRules.Schema.Json

/-!
# Schemas come back from their texts

The text of a schema is read back as the same schema as long as no more containers are open at once
than a text may have, and as no schema when there are more.

* `Schema.nesting` counts the containers from the schema alone, and `nesting_toJson` says that this
  is what its written form has;
* one equation per piece says what decoding does with it (`decode_fields`, `decodeItems_cons`,
  `decodeField_name`, `decodeFieldMembers_kind`, `decodeFieldMembers_tags`,
  `decodeFieldMembers_schema`);
* `decode_ofJson`: the whole form decodes to the schema. The keys of the tags ascend in it, so each
  is put behind those already at hand (`tagsOf_entries`);
* `decode_breaksOff`: a form that breaks off somewhere decodes to nothing.

**`ofText_text`** puts these together with what reading does to a written value.
-/

namespace RecordRules

/-! ## 1. Containers in the written form -/

namespace Schema

mutual

/-- How many containers are open at once where a written schema is deepest: its own object and the
    array of its fields, and what its fields add. -/
def nesting : Schema → Nat
  | .ofFields fields => 2 + fieldsNesting fields

/-- The most that one of the fields adds. -/
def fieldsNesting : List SchemaField → Nat
  | [] => 0
  | field :: fields => max (fieldNesting field) (fieldsNesting fields)

/-- What a field adds: its own object, and in it the object of its tags, if there are any, or its
    nested schema. -/
def fieldNesting : SchemaField → Nat
  | .mk _ _ tags nested => 1 + max (if tags.isEmpty then 0 else 1) (nestedNesting nested)

/-- What a nested schema adds. -/
def nestedNesting : Option Schema → Nat
  | none => 0
  | some schema => nesting schema

end

end Schema

/-- Tags as a written field has them: without any they are left out. -/
def Tags.written (tags : Tags) : List (String × Json) :=
  if tags.isEmpty then [] else [("tags", tags.toJson)]

/-- Tags as they are met in the written form. -/
def Tags.met? (tags : Tags) : Option Tags := if tags.isEmpty then none else some tags

theorem Tags.eq_of_entries : ∀ {s t : Tags}, s.entries = t.entries → s = t
  | ⟨_, _⟩, ⟨_, _⟩, rfl => rfl

/-- Tags that are left out are no tags. -/
theorem Tags.getD_met? (tags : Tags) : tags.met?.getD .empty = tags := by
  unfold Tags.met?
  by_cases h : tags.isEmpty = true
  · rw [if_pos h]
    exact Tags.eq_of_entries (List.isEmpty_iff.mp h).symm
  · rw [if_neg h]
    rfl

namespace Schema

theorem fieldToJson_mk (name : String) (kind : FieldKind) (tags : Tags) (nested : Option Schema) :
    fieldToJson (.mk name kind tags nested)
      = .object (("name", .string name) :: ("kind", .string kind.name)
          :: (tags.written ++ nestedToJson nested)) := by
  rw [fieldToJson]
  rfl

theorem membersNesting_entries : ∀ entries : List (String × String),
    Json.membersNesting (entries.map fun (key, rule) => (key, .string rule)) = 0
  | [] => rfl
  | entry :: entries => by
      rw [List.map_cons, Json.membersNesting, membersNesting_entries entries]
      rfl

theorem membersNesting_written (tags : Tags) (members : List (String × Json)) :
    Json.membersNesting (tags.written ++ members)
      = max (if tags.isEmpty then 0 else 1) (Json.membersNesting members) := by
  unfold Tags.written
  by_cases h : tags.isEmpty = true
  · rw [if_pos h, if_pos h, List.nil_append, Nat.zero_max]
  · rw [if_neg h, if_neg h, List.singleton_append, Json.membersNesting, Tags.toJson, Json.nesting,
      membersNesting_entries]

mutual

/-- **A written schema has the nesting that is counted from the schema.** -/
theorem nesting_toJson : ∀ schema : Schema, schema.toJson.nesting = schema.nesting
  | .ofFields fields => by
      rw [toJson, Json.nesting, Json.membersNesting, Json.membersNesting, Json.nesting, nesting,
        itemsNesting_fieldsToJson fields]
      omega

theorem itemsNesting_fieldsToJson : ∀ fields : List SchemaField,
    Json.itemsNesting (fieldsToJson fields) = fieldsNesting fields
  | [] => by
      rw [fieldsToJson, fieldsNesting]
      rfl
  | field :: fields => by
      rw [fieldsToJson, Json.itemsNesting, fieldsNesting, nesting_fieldToJson field,
        itemsNesting_fieldsToJson fields]

theorem nesting_fieldToJson : ∀ field : SchemaField,
    (fieldToJson field).nesting = fieldNesting field
  | .mk name kind tags nested => by
      rw [fieldToJson_mk, Json.nesting, Json.membersNesting, Json.membersNesting,
        Json.nesting_string, Json.nesting_string, membersNesting_written,
        membersNesting_nestedToJson nested, fieldNesting]
      omega

theorem membersNesting_nestedToJson : ∀ nested : Option Schema,
    Json.membersNesting (nestedToJson nested) = nestedNesting nested
  | none => by
      rw [nestedToJson, nestedNesting]
      rfl
  | some schema => by
      rw [nestedToJson, Json.membersNesting, Json.membersNesting, nestedNesting,
        nesting_toJson schema, Nat.max_zero]

end

theorem numberless_written (tags : Tags) : ∀ member ∈ tags.written, member.2.Numberless := by
  intro member hmember
  unfold Tags.written at hmember
  split at hmember
  · cases hmember
  · rw [List.mem_singleton] at hmember
    subst hmember
    refine .object fun entry hentry => ?_
    obtain ⟨tag, -, rfl⟩ := List.mem_map.mp hentry
    exact .string tag.2

mutual

/-- No number occurs in a written schema. -/
theorem numberless_toJson : ∀ schema : Schema, schema.toJson.Numberless
  | .ofFields fields => by
      rw [toJson]
      exact .object (List.forall_mem_singleton.mpr (.array (numberless_fieldsToJson fields)))

theorem numberless_fieldsToJson : ∀ fields : List SchemaField,
    ∀ item ∈ fieldsToJson fields, item.Numberless
  | [] => by
      rw [fieldsToJson]
      exact List.forall_mem_nil _
  | field :: fields => by
      rw [fieldsToJson]
      exact List.forall_mem_cons.mpr ⟨numberless_fieldToJson field, numberless_fieldsToJson fields⟩

theorem numberless_fieldToJson : ∀ field : SchemaField, (fieldToJson field).Numberless
  | .mk name kind tags nested => by
      rw [fieldToJson_mk]
      refine .object ?_
      rw [List.forall_mem_cons, List.forall_mem_cons, List.forall_mem_append]
      exact ⟨.string name, .string kind.name, numberless_written tags,
        numberless_nestedToJson nested⟩

theorem numberless_nestedToJson : ∀ nested : Option Schema,
    ∀ member ∈ nestedToJson nested, member.2.Numberless
  | none => by
      rw [nestedToJson]
      exact List.forall_mem_nil _
  | some schema => by
      rw [nestedToJson]
      exact List.forall_mem_singleton.mpr (numberless_toJson schema)

end

/-! ## 2. Decoding, piece by piece -/

theorem decode_fields (value : Draft) (closing : Closing) :
    decode (.object [.mk (.string (some "fields")) value] closing)
      = (decodeFields value).bind fun fields =>
          (Draft.finish closing).map fun _ => .ofFields fields := by
  rw [decode, decodeMembers]
  rfl

theorem decodeItems_nil (closing : Closing) :
    decodeItems [] closing = (Draft.finish closing).map fun _ => [] := by
  rw [decodeItems]

theorem decodeItems_cons (item : Draft) (items : List Draft) (closing : Closing) :
    decodeItems (item :: items) closing
      = (decodeField item).bind fun field => (decodeItems items closing).map (field :: ·) := by
  rw [decodeItems]
  rfl

section Field

variable (name : String) (kind : FieldKind) (members : List DraftMember) (closing : Closing)

theorem decodeField_name :
    decodeField (.object (.mk (.string (some "name")) (.string (some name)) :: members) closing)
      = decodeFieldMembers ⟨some name, none, none, none⟩ members closing := by
  rw [decodeField, decodeFieldMembers]
  rfl

theorem decodeFieldMembers_kind :
    decodeFieldMembers ⟨some name, none, none, none⟩
        (.mk (.string (some "kind")) (.string (some kind.name)) :: members) closing
      = decodeFieldMembers ⟨some name, some kind, none, none⟩ members closing := by
  have hkind : kindOf (.string (some kind.name)) = .ok kind :=
    congrArg Except.ok (FieldKind.ofName_name kind)
  rw [decodeFieldMembers, hkind]
  rfl

theorem decodeFieldMembers_tags (value : Draft) :
    decodeFieldMembers ⟨some name, some kind, none, none⟩
        (.mk (.string (some "tags")) value :: members) closing
      = (decodeTags value).bind fun tags =>
          decodeFieldMembers ⟨some name, some kind, some tags, none⟩ members closing := by
  rw [decodeFieldMembers]
  rfl

theorem decodeFieldMembers_schema (tags : Option Tags) {value : Draft} (h : value.isNull = false) :
    decodeFieldMembers ⟨some name, some kind, tags, none⟩
        (.mk (.string (some "schema")) value :: members) closing
      = (decode value).bind fun schema =>
          decodeFieldMembers ⟨some name, some kind, tags, some (some schema)⟩ members closing := by
  rw [decodeFieldMembers, h]
  cases decode value <;> rfl

/-- A field is complete with its name and its kind. -/
theorem decodeFieldMembers_nil (tags : Option Tags) (nested : Option (Option Schema)) :
    decodeFieldMembers ⟨some name, some kind, tags, nested⟩ [] closing
      = (Draft.finish closing).map fun _ =>
          .mk name kind (tags.getD .empty) (nested.getD none) := by
  rw [decodeFieldMembers]
  cases closing <;> rfl

end Field

/-! ## 3. Whole forms -/

/-- An entry behind all others is put there. -/
theorem insertEntry_behind {key : String} (rule : String) :
    ∀ {entries : List (String × String)}, (∀ entry ∈ entries, entry.1 < key) →
      Tags.insertEntry key rule entries = entries ++ [(key, rule)]
  | [], _ => rfl
  | (k, r) :: entries, h => by
      rw [List.forall_mem_cons] at h
      have hlt : ¬ key < k := String.lt_asymm h.1
      have hne : key ≠ k := fun heq => String.lt_irrefl k (heq ▸ h.1)
      rw [Tags.insertEntry, if_neg hlt, if_neg hne, insertEntry_behind rule h.2, List.cons_append]

/-- The entries of tags come back one behind the other. -/
theorem tagsOf_entries : ∀ {entries : List (String × String)} {known tags : Tags},
    tags.entries = known.entries ++ entries →
      tagsOf known (Draft.ofMembers (entries.map fun (key, rule) => (key, .string rule))) .closed
        = .ok tags
  | [], known, tags, h => by
      rw [List.append_nil] at h
      rw [Tags.eq_of_entries h]
      rfl
  | (key, rule) :: entries, known, tags, h => by
      have hascending := tags.ascending
      rw [h, List.pairwise_append] at hascending
      have hbehind : (known.insert key rule).entries = known.entries ++ [(key, rule)] :=
        insertEntry_behind rule fun entry he =>
          hascending.2.2 entry he (key, rule) List.mem_cons_self
      have hrest : tagsOf (known.insert key rule) _ _ = _ := tagsOf_entries
        (by rw [h, hbehind, List.append_assoc, List.singleton_append] :
          tags.entries = (known.insert key rule).entries ++ entries)
      exact hrest

theorem decodeTags_toJson (tags : Tags) : decodeTags (.ofJson tags.toJson) = .ok tags := by
  rw [Tags.toJson, Draft.ofJson, decodeTags]
  exact tagsOf_entries rfl

theorem decodeFieldMembers_written (name : String) (kind : FieldKind) (tags : Tags)
    (members : List (String × Json)) (closing : Closing) :
    decodeFieldMembers ⟨some name, some kind, none, none⟩
        (Draft.ofMembers (tags.written ++ members)) closing
      = decodeFieldMembers ⟨some name, some kind, tags.met?, none⟩
          (Draft.ofMembers members) closing := by
  unfold Tags.written Tags.met?
  by_cases h : tags.isEmpty = true
  · rw [if_pos h, if_pos h, List.nil_append]
  · rw [if_neg h, if_neg h, List.singleton_append, Draft.ofMembers, decodeFieldMembers_tags,
      decodeTags_toJson]
    rfl

theorem isNull_ofJson_toJson : ∀ schema : Schema, (Draft.ofJson schema.toJson).isNull = false
  | .ofFields _ => by
      rw [toJson]
      rfl

mutual

/-- **A written schema decodes to the schema.** -/
theorem decode_ofJson : ∀ schema : Schema, decode (.ofJson schema.toJson) = .ok schema
  | .ofFields fields => by
      have hfields : decodeFields (.ofJson (.array (fieldsToJson fields))) = .ok fields := by
        rw [Draft.ofJson, decodeFields, decodeItems_ofItems fields]
      rw [toJson, Draft.ofJson, Draft.ofMembers, Draft.ofMembers, decode_fields, hfields]
      rfl

theorem decodeItems_ofItems : ∀ fields : List SchemaField,
    decodeItems (Draft.ofItems (fieldsToJson fields)) .closed = .ok fields
  | [] => by
      rw [fieldsToJson, Draft.ofItems, decodeItems_nil]
      rfl
  | field :: fields => by
      rw [fieldsToJson, Draft.ofItems, decodeItems_cons, decodeField_ofJson field,
        decodeItems_ofItems fields]
      rfl

theorem decodeField_ofJson : ∀ field : SchemaField,
    decodeField (.ofJson (fieldToJson field)) = .ok field
  | .mk name kind tags nested => by
      rw [fieldToJson_mk, Draft.ofJson, Draft.ofMembers, Draft.ofMembers, Draft.ofJson,
        Draft.ofJson, decodeField_name, decodeFieldMembers_kind, decodeFieldMembers_written,
        decodeFieldMembers_nestedToJson nested name kind tags.met?, Tags.getD_met?]

theorem decodeFieldMembers_nestedToJson : ∀ (nested : Option Schema) (name : String)
    (kind : FieldKind) (tags : Option Tags),
    decodeFieldMembers ⟨some name, some kind, tags, none⟩ (Draft.ofMembers (nestedToJson nested))
        .closed
      = .ok (.mk name kind (tags.getD .empty) nested)
  | none, name, kind, tags => by
      rw [nestedToJson, Draft.ofMembers, decodeFieldMembers_nil]
      rfl
  | some schema, name, kind, tags => by
      rw [nestedToJson, Draft.ofMembers, Draft.ofMembers,
        decodeFieldMembers_schema _ _ _ _ _ (isNull_ofJson_toJson schema), decode_ofJson schema]
      exact decodeFieldMembers_nil name kind .closed tags (some (some schema))

end

/-! ## 4. Forms that break off -/

theorem tagsOf_breakOff : ∀ {entries : List (String × String)} {known : Tags}
    {drafts : List DraftMember},
    Json.MembersBreakOff (entries.map fun (key, rule) => (key, .string rule)) drafts →
      tagsOf known drafts (.broken .malformed) = .error (.fault .malformed)
  | [], _, _, h => by
      cases h
      rfl
  | (key, rule) :: entries, known, _, h => by
      cases h with
      | here => rfl
      | inside _ h => cases h
      | behind _ _ h =>
          have hrest : tagsOf (known.insert key rule) _ _ = _ := tagsOf_breakOff h
          exact hrest

theorem decodeTags_breaksOff {tags : Tags} {draft : Draft} (h : tags.toJson.BreaksOff draft) :
    decodeTags draft = .error (.fault .malformed) := by
  cases h with
  | object h => exact tagsOf_breakOff h

theorem decodeFieldMembers_nil_broken (parts : FieldParts) :
    decodeFieldMembers parts [] (.broken .malformed) = .error (.fault .malformed) := by
  rw [decodeFieldMembers]
  rfl

/-- A field with tags that break off; behind them the field breaks off just as well. -/
theorem decodeFieldMembers_written_breakOff {name : String} {kind : FieldKind} {tags : Tags}
    {members : List (String × Json)} {drafts : List DraftMember}
    (hmembers : ∀ {drafts : List DraftMember}, Json.MembersBreakOff members drafts →
      decodeFieldMembers ⟨some name, some kind, tags.met?, none⟩ drafts (.broken .malformed)
        = .error (.fault .malformed))
    (h : Json.MembersBreakOff (tags.written ++ members) drafts) :
    decodeFieldMembers ⟨some name, some kind, none, none⟩ drafts (.broken .malformed)
      = .error (.fault .malformed) := by
  unfold Tags.written at h
  unfold Tags.met? at hmembers
  by_cases htags : tags.isEmpty = true
  · rw [if_pos htags, List.nil_append] at h
    rw [if_pos htags] at hmembers
    exact hmembers h
  · rw [if_neg htags, List.singleton_append] at h
    rw [if_neg htags] at hmembers
    cases h with
    | here => exact decodeFieldMembers_nil_broken _
    | inside _ h =>
        rw [decodeFieldMembers_tags, decodeTags_breaksOff h]
        rfl
    | behind _ _ h =>
        rw [decodeFieldMembers_tags, decodeTags_toJson]
        exact hmembers h

theorem isNull_of_breaksOff {j : Json} {draft : Draft} (h : j.BreaksOff draft) :
    draft.isNull = false := by
  cases h <;> rfl

mutual

/-- **A written schema that breaks off decodes to no schema.** -/
theorem decode_breaksOff : ∀ {schema : Schema} {draft : Draft}, schema.toJson.BreaksOff draft →
    decode draft = .error (.fault .malformed)
  | .ofFields fields, _, h => by
      rw [toJson] at h
      cases h with
      | object h =>
          cases h with
          | here =>
              rw [decode, decodeMembers]
              rfl
          | inside _ h =>
              cases h with
              | array h =>
                  rw [decode_fields, decodeFields, decodeItems_breakOff h]
                  rfl
          | behind _ _ h =>
              cases h
              rw [decode_fields, Draft.ofJson, decodeFields, decodeItems_ofItems]
              rfl

theorem decodeItems_breakOff : ∀ {fields : List SchemaField} {drafts : List Draft},
    Json.ItemsBreakOff (fieldsToJson fields) drafts →
      decodeItems drafts (.broken .malformed) = .error (.fault .malformed)
  | [], _, h => by
      rw [fieldsToJson] at h
      cases h
      rw [decodeItems_nil]
      rfl
  | field :: fields, _, h => by
      rw [fieldsToJson] at h
      cases h with
      | here =>
          rw [decodeItems_nil]
          rfl
      | inside h =>
          rw [decodeItems_cons, decodeField_breaksOff h]
          rfl
      | behind _ h =>
          rw [decodeItems_cons, decodeField_ofJson, decodeItems_breakOff h]
          rfl

theorem decodeField_breaksOff : ∀ {field : SchemaField} {draft : Draft},
    (fieldToJson field).BreaksOff draft → decodeField draft = .error (.fault .malformed)
  | .mk name kind tags nested, _, h => by
      rw [fieldToJson_mk] at h
      -- neither the name nor the kind is a container, so they are whole when they are there
      cases h with
      | object h =>
          cases h with
          | here =>
              rw [decodeField]
              exact decodeFieldMembers_nil_broken _
          | inside _ h => cases h
          | behind _ _ h =>
              rw [Draft.ofJson, decodeField_name]
              cases h with
              | here => exact decodeFieldMembers_nil_broken _
              | inside _ h => cases h
              | behind _ _ h =>
                  rw [Draft.ofJson, decodeFieldMembers_kind]
                  exact decodeFieldMembers_written_breakOff
                    (fun h => decodeFieldMembers_nested_breakOff h name kind tags.met?) h

theorem decodeFieldMembers_nested_breakOff : ∀ {nested : Option Schema}
    {drafts : List DraftMember}, Json.MembersBreakOff (nestedToJson nested) drafts →
      ∀ (name : String) (kind : FieldKind) (tags : Option Tags),
        decodeFieldMembers ⟨some name, some kind, tags, none⟩ drafts (.broken .malformed)
          = .error (.fault .malformed)
  | none, _, h, name, kind, tags => by
      rw [nestedToJson] at h
      cases h
      exact decodeFieldMembers_nil_broken _
  | some schema, _, h, name, kind, tags => by
      rw [nestedToJson] at h
      cases h with
      | here => exact decodeFieldMembers_nil_broken _
      | inside _ h =>
          have hnull := isNull_of_breaksOff h
          rw [decodeFieldMembers_schema _ _ _ _ _ hnull, decode_breaksOff h]
          rfl
      | behind _ _ h =>
          cases h
          rw [decodeFieldMembers_schema _ _ _ _ _ (isNull_ofJson_toJson schema), decode_ofJson]
          exact decodeFieldMembers_nil_broken _

end

/-! ## 5. Whole texts -/

/-- **Schemas come back from their texts**, as long as no more than 127 containers are open at once;
    a text that opens more of them is no schema's. -/
theorem ofText_text (schema : Schema) :
    ofText schema.text
      = if schema.nesting ≤ 127 then .ok schema else .error (.fault .malformed) := by
  obtain ⟨hends, hdraft⟩ := Document.ofText_print (numberless_toJson schema)
  rw [nesting_toJson] at hdraft
  rw [ofText, Schema.text, Document.decode, hends]
  rcases hdraft with ⟨hn, hd⟩ | ⟨hn, hd⟩
  · have hwithin : schema.nesting ≤ 127 := hn
    rw [hd, decode_ofJson, if_pos hwithin]
    rfl
  · have hbeyond : ¬ schema.nesting ≤ 127 := Nat.not_le.mpr hn
    rw [decode_breaksOff hd, if_neg hbeyond]
    rfl

end Schema

end RecordRules
