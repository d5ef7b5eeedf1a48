import Mathlib.Data.List.Perm.Basic
import RecordRules.Declaration
import RecordRules.Pattern.Reader
import RecordRules.Proofs.Schema.Binding
import RecordRules.Validate

/-!
# Declared records and schemas agree

A record declared with its values in place and a JSON object under a schema with the same fields are
validated alike, because they are the same record under every annotation key.

* `FieldsSupported` are the declarations whose tagged values have a kind in schemas;
* `FieldsDeclaredAs` says that a schema declares the same fields, `FieldsHeldBy` that the members
  of an object hold their contents. Neither says anything of a field without tags;
* `declaredFields_eq_bindFields`: what such a schema binds to such an object is what is declared;
* `FieldsSupported.exists_declared`: every supported declaration has a schema and an object.

**`declared_validates_as_bound`** puts this together for whole validations.
-/

namespace RecordRules

/-! ## 1. Declarations, schemas and objects with the same fields -/

/-- The least integer of a type. -/
def IntType.least : IntType → Int
  | .int8 => -0x80
  | .int16 => -0x8000
  | .int32 => -0x80000000
  | .int64 => leastInteger
  | .uint8 | .uint16 | .uint32 => 0

/-- The greatest integer of a type. -/
def IntType.greatest : IntType → Int
  | .int8 => 0x7F
  | .int16 => 0x7FFF
  | .int32 => 0x7FFFFFFF
  | .int64 => greatestInteger
  | .uint8 => 0xFF
  | .uint16 => 0xFFFF
  | .uint32 => 0xFFFFFFFF

/-- Whether an integer is one of a type. -/
def IntType.Holds (type : IntType) (n : Int) : Prop := type.least ≤ n ∧ n ≤ type.greatest

instance (type : IntType) (n : Int) : Decidable (type.Holds n) :=
  inferInstanceAs (Decidable (type.least ≤ n ∧ n ≤ type.greatest))

/-- All types fit into 64 bits with a sign. -/
theorem IntType.Holds.le_greatestInteger {type : IntType} {n : Int} (h : type.Holds n) :
    n ≤ greatestInteger := by
  refine Int.le_trans h.2 ?_
  cases type <;> decide

/-- The name of a declared field. -/
def DeclaredField.name : DeclaredField → String
  | .mk name _ _ => name

mutual

/-- A value with a kind in schemas: a string, an integer of its type, a sequence of either that is
    no buffer of bytes, or a declared record of such values. -/
inductive HostValue.Supported : HostValue → Prop where
  /-- A string. -/
  | text (s : String) : HostValue.Supported (.text s)
  /-- A sequence of strings. -/
  | texts (items : List String) : HostValue.Supported (.texts items)
  /-- An integer of its type. -/
  | int {type : IntType} {n : Int} (h : type.Holds n) : HostValue.Supported (.int type n)
  /-- A sequence of integers of its type. -/
  | ints {type : IntType} {items : List Int} (htype : type ≠ .uint8)
      (h : ∀ n ∈ items, type.Holds n) : HostValue.Supported (.ints type items)
  /-- A declared record. -/
  | record {fields : List DeclaredField} (h : FieldsSupported fields) :
      HostValue.Supported (.record fields)

/-- Fields with distinct names, each with distinct annotation keys. The values of those with tags
    have a kind, the others may be anything. -/
inductive FieldsSupported : List DeclaredField → Prop where
  /-- No fields. -/
  | nil : FieldsSupported []
  /-- One more field in front. -/
  | cons {name : String} {tags : List (String × String)} {value : HostValue}
      {fields : List DeclaredField} (hname : ∀ field ∈ fields, field.name ≠ name)
      (hkeys : (tags.map Prod.fst).Nodup) (hvalue : tags ≠ [] → value.Supported)
      (hs : FieldsSupported fields) : FieldsSupported (.mk name tags value :: fields)

end

mutual

/-- A schema declares a value by its kind and, for a record, by the schema nested in the field. -/
inductive HostValue.DeclaredAs : HostValue → FieldKind → Option Schema → Prop where
  /-- A string. -/
  | text (s : String) (nested : Option Schema) : HostValue.DeclaredAs (.text s) .string nested
  /-- A sequence of strings. -/
  | texts (items : List String) (nested : Option Schema) :
      HostValue.DeclaredAs (.texts items) .stringSeq nested
  /-- An integer. -/
  | int (type : IntType) (n : Int) (nested : Option Schema) :
      HostValue.DeclaredAs (.int type n) .int nested
  /-- A sequence of integers. -/
  | ints (type : IntType) (items : List Int) (nested : Option Schema) :
      HostValue.DeclaredAs (.ints type items) .intSeq nested
  /-- A declared record. -/
  | record {fields : List DeclaredField} {declared : List SchemaField}
      (h : FieldsDeclaredAs fields declared) :
      HostValue.DeclaredAs (.record fields) .record (some (.ofFields declared))

/-- A schema declares fields by their names and tags in the same order, and those with tags by
    their values. -/
inductive FieldsDeclaredAs : List DeclaredField → List SchemaField → Prop where
  /-- No fields. -/
  | nil : FieldsDeclaredAs [] []
  /-- One more field in front. -/
  | cons (name : String) {tags : List (String × String)} {tags' : Tags} {value : HostValue}
      {kind : FieldKind} {nested : Option Schema} {fields : List DeclaredField}
      {declared : List SchemaField} (htags : tags.Perm tags'.entries)
      (hvalue : tags ≠ [] → value.DeclaredAs kind nested)
      (hs : FieldsDeclaredAs fields declared) :
      FieldsDeclaredAs (.mk name tags value :: fields) (.mk name kind tags' nested :: declared)

end

mutual

/-- A JSON value with the contents of a value. -/
inductive HostValue.HeldBy : HostValue → Json → Prop where
  /-- A string. -/
  | text (s : String) : HostValue.HeldBy (.text s) (.string s)
  /-- A sequence of strings. -/
  | texts (items : List String) : HostValue.HeldBy (.texts items) (.array (items.map .string))
  /-- An integer. -/
  | int (type : IntType) (n : Int) : HostValue.HeldBy (.int type n) (.int n)
  /-- A sequence of integers. -/
  | ints (type : IntType) (items : List Int) :
      HostValue.HeldBy (.ints type items) (.array (items.map .int))
  /-- A declared record. -/
  | record {fields : List DeclaredField} {members : List (String × Json)}
      (h : FieldsHeldBy fields members) : HostValue.HeldBy (.record fields) (.object members)

/-- Members with the contents of the fields with tags under their names. They may stand in any
    order, and there may be others. -/
inductive FieldsHeldBy : List DeclaredField → List (String × Json) → Prop where
  /-- No fields. -/
  | nil (members : List (String × Json)) : FieldsHeldBy [] members
  /-- One more field in front. -/
  | cons {name : String} {tags : List (String × String)} {value : HostValue}
      {fields : List DeclaredField} {members : List (String × Json)} {content : Json}
      (hmember : tags ≠ [] → Json.member? name members = some content)
      (hvalue : tags ≠ [] → value.HeldBy content) (hs : FieldsHeldBy fields members) :
      FieldsHeldBy (.mk name tags value :: fields) members

end

/-! ## 2. The tags of a field -/

/-- Under distinct keys, at most one entry has a given key. -/
theorem filter_key_of_nodup (key : String) : ∀ {entries : List (String × String)},
    (entries.map Prod.fst).Nodup →
      entries.filter (fun tag => tag.1 = key) = ((entries.lookup key).map (key, ·)).toList
  | [], _ => rfl
  | (k, rule) :: entries, h => by
      rw [List.map_cons, List.nodup_cons] at h
      rw [Tags.lookup_entry]
      by_cases hk : k = key
      · subst hk
        have hrest : entries.filter (fun tag => tag.1 = k) = [] := by
          refine List.filter_eq_nil_iff.mpr fun tag htag heq => h.1 ?_
          have hkey : tag.1 = k := of_decide_eq_true heq
          exact List.mem_map.mpr ⟨tag, htag, hkey⟩
        simp [hrest]
      · rw [List.filter_cons_of_neg (by simpa using hk), filter_key_of_nodup key h.2,
          if_neg (Ne.symm hk)]

/-- The keys of tags are distinct. -/
theorem Tags.nodup_keys (tags : Tags) : (tags.entries.map Prod.fst).Nodup := by
  refine List.Pairwise.map _ (fun a b h heq => ?_) tags.ascending
  rw [heq] at h
  exact String.lt_irrefl _ h

/-- The tags of a declared field under a key are those of the schema, whatever the order. -/
theorem Tags.filter_key {tags : List (String × String)} {tags' : Tags}
    (h : tags.Perm tags'.entries) (key : String) :
    tags.filter (fun tag => tag.1 = key) = ((tags'.get? key).map (key, ·)).toList := by
  have hperm := h.filter fun tag => decide (tag.1 = key)
  rw [filter_key_of_nodup key tags'.nodup_keys] at hperm
  unfold Tags.get?
  cases hget : tags'.entries.lookup key with
  | none =>
      rw [hget] at hperm
      exact hperm.eq_nil
  | some rule =>
      rw [hget] at hperm
      exact hperm.eq_singleton

/-! ## 3. A schema binds what is declared -/

theorem asInt?_int {n : Int} (h : n ≤ greatestInteger) : (Json.int n).asInt? = some n := if_pos h

theorem mapM_asString? : ∀ items : List String,
    (items.map Json.string).mapM Json.asString? = some items
  | [] => rfl
  | item :: items => by
      rw [List.map_cons, List.mapM_cons, mapM_asString? items]
      rfl

theorem mapM_asInt? : ∀ {items : List Int}, (∀ n ∈ items, n ≤ greatestInteger) →
    (items.map Json.int).mapM Json.asInt? = some items
  | [], _ => rfl
  | n :: items, h => by
      rw [List.map_cons, List.mapM_cons, asInt?_int (h n List.mem_cons_self),
        mapM_asInt? fun m hm => h m (List.mem_cons_of_mem n hm)]
      rfl

theorem fieldValue_ints {type : IntType} (htype : type ≠ .uint8) (key : String)
    (items : List Int) : (HostValue.ints type items).fieldValue key = .leaf (.intSeq items) := by
  cases type with
  | uint8 => exact absurd rfl htype
  | int8 | int16 | int32 | int64 | uint16 | uint32 => rfl

section Binding

variable (key : String)

/-- What a declared field contributes under a key: it is there when it has a tag with that key. -/
theorem declaredFields_cons (name : String) {tags : List (String × String)} {tags' : Tags}
    (h : tags.Perm tags'.entries) (value : HostValue) (fields : List DeclaredField) :
    declaredFields key (.mk name tags value :: fields)
      = ((tags'.get? key).map fun rule => Field.mk name rule (value.fieldValue key)).toList
        ++ declaredFields key fields := by
  rw [declaredFields, Tags.filter_key h]
  cases tags'.get? key <;> rfl

mutual

/-- **The member that holds a declared value is bound to that value.** -/
theorem HostValue.fieldValue_eq_bindMember : ∀ {value : HostValue} {kind : FieldKind}
    {nested : Option Schema} {content : Json}, value.Supported → value.DeclaredAs kind nested →
      value.HeldBy content →
      value.fieldValue key = Schema.bindMember key kind nested (some content)
  | .text s, _, _, _, _, hd, hh => by
      cases hd
      cases hh
      rw [HostValue.fieldValue, Schema.bindMember_leaf key (by decide) _ rfl]
  | .texts items, _, _, _, _, hd, hh => by
      cases hd
      cases hh
      have hleaf : Leaf.ofJson? .stringSeq (.array (items.map .string)) = some (.strSeq items) := by
        rw [Leaf.ofJson?, mapM_asString?]
        rfl
      rw [HostValue.fieldValue, Schema.bindMember_leaf key (by decide) _ hleaf]
  | .int type n, _, _, _, hs, hd, hh => by
      cases hs with
      | int h =>
          cases hd
          cases hh
          have hleaf : Leaf.ofJson? .int (.int n) = some (.int n) := by
            rw [Leaf.ofJson?, asInt?_int h.le_greatestInteger]
            rfl
          rw [HostValue.fieldValue, Schema.bindMember_leaf key (by decide) _ hleaf]
  | .ints type items, _, _, _, hs, hd, hh => by
      cases hs with
      | ints htype h =>
          cases hd
          cases hh
          have hleaf : Leaf.ofJson? .intSeq (.array (items.map .int)) = some (.intSeq items) := by
            rw [Leaf.ofJson?, mapM_asInt? fun n hn => (h n hn).le_greatestInteger]
            rfl
          rw [fieldValue_ints htype, Schema.bindMember_leaf key (by decide) _ hleaf]
  | .without type, _, _, _, hs, _, _ => by cases hs
  | .record fields, _, _, _, hs, hd, hh => by
      cases hs with
      | record hs =>
          cases hd with
          | record hd =>
              cases hh with
              | record hh =>
                  rw [HostValue.fieldValue, declaredFields_eq_bindFields hs hd hh,
                    Schema.bindMember_object, Option.getD_some, Schema.bind_object]

/-- **The members that hold declared fields are bound to those fields.** -/
theorem declaredFields_eq_bindFields : ∀ {fields : List DeclaredField}
    {declared : List SchemaField} {members : List (String × Json)}, FieldsSupported fields →
      FieldsDeclaredAs fields declared → FieldsHeldBy fields members →
      declaredFields key fields = Schema.bindFields key members declared
  | [], _, _, _, hd, _ => by
      cases hd
      rw [declaredFields, Schema.bindFields_nil]
  | .mk name tags value :: fields, _, _, hs, hd, hh => by
      cases hs with
      | cons _ _ hvalue hs =>
          cases hd with
          | @cons _ _ tags' _ kind nested _ declared htags hkind hd =>
              cases hh with
              | cons hmember hheld hh =>
                  rw [declaredFields_cons key name htags, Schema.bindFields_cons,
                    declaredFields_eq_bindFields hs hd hh]
                  cases hget : tags'.get? key with
                  | none => rfl
                  | some rule =>
                      -- a tag under the key is a tag, so the value has a kind and a member
                      have hne : tags ≠ [] := by
                        rintro rfl
                        rw [Tags.get?, htags.symm.eq_nil] at hget
                        cases hget
                      rw [hmember hne, HostValue.fieldValue_eq_bindMember (hvalue hne) (hkind hne)
                        (hheld hne)]

end

end Binding

/-! ## 4. Every declaration has a schema and an object -/

/-- A new key puts one more entry among the others. -/
theorem Tags.insertEntry_perm {key : String} (rule : String) :
    ∀ {entries : List (String × String)}, key ∉ entries.map Prod.fst →
      (insertEntry key rule entries).Perm ((key, rule) :: entries)
  | [], _ => .refl _
  | (k, r) :: entries, h => by
      rw [List.map_cons, List.mem_cons, not_or] at h
      rw [insertEntry, if_neg h.1]
      by_cases hlt : key < k
      · rw [if_pos hlt]
      · rw [if_neg hlt]
        exact ((insertEntry_perm rule h.2).cons (k, r)).trans (.swap _ _ entries)

/-- Tags under distinct keys can be put into order. -/
theorem Tags.exists_perm : ∀ {tags : List (String × String)}, (tags.map Prod.fst).Nodup →
    ∃ tags' : Tags, tags.Perm tags'.entries
  | [], _ => ⟨.empty, .refl _⟩
  | (key, rule) :: tags, h => by
      rw [List.map_cons, List.nodup_cons] at h
      obtain ⟨tags', hperm⟩ := Tags.exists_perm h.2
      refine ⟨tags'.insert key rule, ?_⟩
      have hnew : key ∉ tags'.entries.map Prod.fst := fun hmem =>
        h.1 ((hperm.map Prod.fst).mem_iff.mpr hmem)
      exact (hperm.cons (key, rule)).trans (insertEntry_perm rule hnew).symm

/-- A member of another name in front changes nothing. -/
theorem FieldsHeldBy.cons_member {name : String} (content : Json) :
    ∀ {fields : List DeclaredField} {members : List (String × Json)},
      (∀ field ∈ fields, field.name ≠ name) → FieldsHeldBy fields members →
        FieldsHeldBy fields ((name, content) :: members)
  | [], _, _, _ => .nil _
  | .mk other tags value :: fields, members, hne, h => by
      cases h with
      | cons hmember hvalue hs =>
          rw [List.forall_mem_cons] at hne
          have hother : name ≠ other := Ne.symm hne.1
          refine .cons (fun ht => ?_) hvalue (FieldsHeldBy.cons_member content hne.2 hs)
          rw [Json.member?, if_neg hother]
          exact hmember ht

mutual

theorem HostValue.Supported.exists_declared : ∀ {value : HostValue}, value.Supported →
    ∃ kind nested content, value.DeclaredAs kind nested ∧ value.HeldBy content
  | .text s, _ => ⟨_, none, _, .text s none, .text s⟩
  | .texts items, _ => ⟨_, none, _, .texts items none, .texts items⟩
  | .int type n, _ => ⟨_, none, _, .int type n none, .int type n⟩
  | .ints type items, _ => ⟨_, none, _, .ints type items none, .ints type items⟩
  | .without _, h => by cases h
  | .record _, h => by
      cases h with
      | record h =>
          obtain ⟨declared, members, hd, hh⟩ := FieldsSupported.exists_declared h
          exact ⟨_, _, _, .record hd, .record hh⟩

/-- **Every declaration has a schema that declares it, and an object that holds it.** -/
theorem FieldsSupported.exists_declared : ∀ {fields : List DeclaredField},
    FieldsSupported fields →
      ∃ declared members, FieldsDeclaredAs fields declared ∧ FieldsHeldBy fields members
  | [], _ => ⟨[], [], .nil, .nil []⟩
  | .mk name tags value :: fields, h => by
      cases h with
      | cons hname hkeys hvalue hs =>
          obtain ⟨declared, members, hd, hh⟩ := FieldsSupported.exists_declared hs
          obtain ⟨tags', hperm⟩ := Tags.exists_perm hkeys
          by_cases ht : tags = []
          · have hnone : ∀ {p : Prop}, tags ≠ [] → p := fun hne => absurd ht hne
            exact ⟨.mk name .other tags' none :: declared, members, .cons name hperm hnone hd,
              @FieldsHeldBy.cons _ _ _ _ _ .null hnone hnone hh⟩
          · obtain ⟨kind, nested, content, hkind, hheld⟩ :=
              HostValue.Supported.exists_declared (hvalue ht)
            refine ⟨.mk name kind tags' nested :: declared, (name, content) :: members,
              .cons name hperm (fun _ => hkind) hd,
              .cons (fun _ => ?_) (fun _ => hheld) (hh.cons_member content hname)⟩
            rw [Json.member?, if_pos rfl]

end

/-! ## 5. Whole validations -/

/-- **A declared record validates as its JSON form does.** A declaration whose tagged values have
    kinds has a schema that declares the same fields and an object that holds their contents, and
    under any such schema any such object is validated with the same events to the same report or
    the same error as the declared record, whatever the configuration. -/
theorem declared_validates_as_bound [PatternEngine] {fields : List DeclaredField}
    (h : FieldsSupported fields) :
    (∃ declared members, FieldsDeclaredAs fields declared ∧ FieldsHeldBy fields members) ∧
    ∀ declared members, FieldsDeclaredAs fields declared → FieldsHeldBy fields members →
      ∀ config : Config,
        config.validate (DeclaredField.record config.annotationKey fields)
          = config.validate (Schema.bind config.annotationKey (.object members)
              (.ofFields declared)) := by
  refine ⟨h.exists_declared, fun declared members hd hh config => ?_⟩
  rw [Schema.bind_object, DeclaredField.record, declaredFields_eq_bindFields _ h hd hh]

/-- A name under two keys, a number without any, ports and a nested owner. -/
def declaredServer : List DeclaredField :=
  [.mk "name" [("validate", "len:3"), ("audit", "in:a,b")] (.text "abcd"),
   .mk "load" [] (.without .float64),
   .mk "ports" [("validate", "max:1000")] (.ints .uint16 [80, 8080]),
   .mk "owner" [("validate", "nested|nested")]
    (.record [.mk "id" [("validate", "min:0")] (.int .int8 (-5))])]

/-- A schema that declares them; its tags are ordered by their keys. -/
def serverSchema : List SchemaField :=
  [.mk "name" .string ((Tags.empty.insert "validate" "len:3").insert "audit" "in:a,b") none,
   .mk "load" .other .empty none,
   .mk "ports" .intSeq (Tags.empty.insert "validate" "max:1000") none,
   .mk "owner" .record (Tags.empty.insert "validate" "nested|nested")
    (some (.ofFields [.mk "id" .int (Tags.empty.insert "validate" "min:0") none]))]

/-- Members that hold them, in another order and with one more. -/
def serverMembers : List (String × Json) :=
  [("owner", .object [("id", .int (-5))]), ("extra", .null),
   ("ports", .array [.int 80, .int 8080]), ("name", .string "abcd")]

/-- What is wrong with either of them. -/
def serverReport : Report :=
  ⟨[⟨"name", .strLen⟩, ⟨"ports", .intMax⟩, ⟨"id", .intMin⟩, ⟨"id", .intMin⟩]⟩

open scoped Pattern

theorem declared_validates_as_bound_server :
    FieldsSupported declaredServer ∧ FieldsDeclaredAs declaredServer serverSchema ∧
      FieldsHeldBy declaredServer serverMembers ∧
      Config.strict.report (DeclaredField.record "validate" declaredServer) = .ok serverReport ∧
      Config.strict.validate (DeclaredField.record "validate" declaredServer)
        = Config.strict.validate
            (Schema.bind "validate" (.object serverMembers) (.ofFields serverSchema)) := by
  have hs : FieldsSupported declaredServer :=
    .cons (by decide) (by decide) (fun _ => .text "abcd")
      (.cons (by decide) (by decide) (fun h => absurd rfl h)
        (.cons (by decide) (by decide) (fun _ => .ints (by decide) (by decide))
          (.cons (by decide) (by decide)
            (fun _ => .record (.cons (by decide) (by decide) (fun _ => .int (by decide)) .nil))
            .nil)))
  have hd : FieldsDeclaredAs declaredServer serverSchema :=
    .cons "name" (by decide) (fun _ => .text "abcd" none)
      (.cons "load" (.refl []) (fun h => absurd rfl h)
        (.cons "ports" (by decide) (fun _ => .ints .uint16 [80, 8080] none)
          (.cons "owner" (by decide)
            (fun _ => .record (.cons "id" (by decide) (fun _ => .int .int8 (-5) none) .nil))
            .nil)))
  have hh : FieldsHeldBy declaredServer serverMembers :=
    .cons (fun _ => rfl) (fun _ => .text "abcd")
      (@FieldsHeldBy.cons "load" [] _ _ _ .null (fun h => absurd rfl h) (fun h => absurd rfl h)
        (.cons (fun _ => rfl) (fun _ => .ints .uint16 [80, 8080])
          (.cons (fun _ => rfl)
            (fun _ => .record (.cons (fun _ => rfl) (fun _ => .int .int8 (-5)) (.nil _)))
            (.nil _))))
  exact ⟨hs, hd, hh, rfl, (declared_validates_as_bound hs).2 _ _ hd hh .strict⟩

end RecordRules
