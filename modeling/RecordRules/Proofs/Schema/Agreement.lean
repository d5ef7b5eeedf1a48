import RecordRules.Pattern.Reader
import RecordRules.Proofs.Schema.Binding
import RecordRules.Validate

/-!
# Undeclared data

Under one annotation key a schema looks at few members of an object: those of its fields with a
rule under that key, and in nested records again only those. Everything else in the object may be
anything, and the members may stand in any order.

* `Json.Same` says that two values are equal as JSON, so the order of members makes no difference;
* `Schema.AgreeOn` says that two objects agree on what a schema looks at;
* `Json.Same.describe_eq`, `Json.Same.ofJson?_eq`: equal values are taken for the same leaf, and
  described in the same words;
* `AgreeOn.bind_eq`: objects that agree make the same record.

**`agreeOn_validates_alike`** says it of whole validations.
-/

namespace RecordRules

/-! ## 1. Equal values -/

namespace Json

mutual

/-- Values that are equal as JSON: two objects have equal members under the same names, in whatever
    order, and zero has one value with either sign. -/
inductive Same : Json → Json → Prop where
  /-- The value `null`. -/
  | null : Same .null .null
  /-- The same truth value. -/
  | bool (b : Bool) : Same (.bool b) (.bool b)
  /-- The same number. -/
  | number (n : Number) : Same (.number n) (.number n)
  /-- Zero with any two signs. -/
  | zero (s t : Bool) : Same (.number (.float s .zero)) (.number (.float t .zero))
  /-- The same string. -/
  | string (s : String) : Same (.string s) (.string s)
  /-- Equal items in the same order. -/
  | array {xs ys : List Json} (h : ItemsSame xs ys) : Same (.array xs) (.array ys)
  /-- Equal members. -/
  | object {v w : List (String × Json)}
      (h : ∀ name, MemberSame (member? name v) (member? name w)) : Same (.object v) (.object w)

/-- Items that are equal one by one. -/
inductive ItemsSame : List Json → List Json → Prop where
  /-- No items. -/
  | nil : ItemsSame [] []
  /-- Equal items in front. -/
  | cons {x y : Json} {xs ys : List Json} (h : Same x y) (hs : ItemsSame xs ys) :
      ItemsSame (x :: xs) (y :: ys)

/-- Equal members, or none on either side. -/
inductive MemberSame : Option Json → Option Json → Prop where
  /-- No member. -/
  | absent : MemberSame none none
  /-- Equal members. -/
  | present {x y : Json} (h : Same x y) : MemberSame (some x) (some y)

end

section Reading

variable {x y : Json}

theorem Same.asString?_eq (h : Same x y) : x.asString? = y.asString? := by
  cases h <;> rfl

theorem Same.asInt?_eq (h : Same x y) : x.asInt? = y.asInt? := by
  cases h <;> rfl

theorem Same.typeName_eq (h : Same x y) : x.typeName = y.typeName := by
  cases h <;> rfl

theorem Same.isString_eq (h : Same x y) : x.isString = y.isString := by
  rw [isString, isString, h.asString?_eq]

theorem Same.isInt_eq (h : Same x y) : x.isInt = y.isInt := by
  rw [isInt, isInt, h.asInt?_eq]

/-- Equal items are read one like the other. -/
theorem ItemsSame.mapM_eq {α : Type} {f : Json → Option α}
    (hf : ∀ {x y : Json}, Same x y → f x = f y) : ∀ {xs ys : List Json}, ItemsSame xs ys →
      xs.mapM f = ys.mapM f
  | _, _, .nil => rfl
  | _, _, .cons h hs => by rw [List.mapM_cons, List.mapM_cons, hf h, ItemsSame.mapM_eq hf hs]

theorem ItemsSame.any_eq {f : Json → Bool} (hf : ∀ {x y : Json}, Same x y → f x = f y) :
    ∀ {xs ys : List Json}, ItemsSame xs ys → xs.any f = ys.any f
  | _, _, .nil => rfl
  | _, _, .cons h hs => by rw [List.any_cons, List.any_cons, hf h, ItemsSame.any_eq hf hs]

/-- The first item that is neither a string nor an integer has the same type in both. -/
theorem ItemsSame.find?_eq : ∀ {xs ys : List Json}, ItemsSame xs ys →
    (xs.find? fun item => !item.isString && !item.isInt).map typeName
      = (ys.find? fun item => !item.isString && !item.isInt).map typeName
  | _, _, .nil => rfl
  | x :: _, _, .cons h hs => by
      have hrest := ItemsSame.find?_eq hs
      rw [List.find?_cons, List.find?_cons, h.isString_eq, h.isInt_eq]
      split
      · rw [Option.map_some, Option.map_some, h.typeName_eq]
      · exact hrest

theorem describe_array (items : List Json) :
    describe (.array items)
      = match (items.find? fun item => !item.isString && !item.isInt).map typeName with
        | some type => "array containing " ++ type
        | none =>
          if items.any isString && items.any isInt then "array of mixed elements"
          else if items.any isString then "array of string"
          else "array of int" := by
  rw [describe]
  cases items.find? fun item => !item.isString && !item.isInt <;> rfl

/-- **Equal values are described in the same words.** -/
theorem Same.describe_eq (h : Same x y) : x.describe = y.describe := by
  cases h with
  | array h =>
      rw [describe_array, describe_array, h.find?_eq, h.any_eq Same.isString_eq,
        h.any_eq Same.isInt_eq]
  | null | bool b | number n | zero s t | string s | object h => rfl

/-- **Equal values are taken for the same leaf.** -/
theorem Same.ofJson?_eq (h : Same x y) (kind : FieldKind) :
    Leaf.ofJson? kind x = Leaf.ofJson? kind y := by
  cases h with
  | array h =>
      cases kind with
      | stringSeq => rw [Leaf.ofJson?, Leaf.ofJson?, h.mapM_eq Same.asString?_eq]
      | intSeq => rw [Leaf.ofJson?, Leaf.ofJson?, h.mapM_eq Same.asInt?_eq]
      | string | int | record | other => rfl
  | null | bool b | number n | zero s t | string s | object h => cases kind <;> rfl

end Reading

end Json

/-! ## 2. Objects that agree -/

namespace Schema

mutual

/-- Two objects agree on a schema under a key: so do their members of every field with a rule there.
    Of other fields nothing is said, and neither of members that no field declares. -/
inductive AgreeOn (key : String) : Schema → List (String × Json) → List (String × Json) → Prop where
  /-- Fields whose members agree. -/
  | ofFields {fields : List SchemaField} {v w : List (String × Json)}
      (h : ∀ field ∈ fields, (field.tags.get? key).isSome = true →
        MembersAgree key field.kind field.nested (Json.member? field.name v)
          (Json.member? field.name w)) : AgreeOn key (.ofFields fields) v w

/-- Two members agree on a declared field. -/
inductive MembersAgree (key : String) :
    FieldKind → Option Schema → Option Json → Option Json → Prop where
  /-- There is none on either side. -/
  | absent (kind : FieldKind) (nested : Option Schema) : MembersAgree key kind nested none none
  /-- They are equal. -/
  | same (kind : FieldKind) (nested : Option Schema) {x y : Json} (h : Json.Same x y) :
      MembersAgree key kind nested (some x) (some y)
  /-- The field is a record, and they are objects that agree on the nested schema, or else on the
      empty one. -/
  | objects {nested : Option Schema} {v w : List (String × Json)}
      (h : AgreeOn key (nested.getD .empty) v w) :
      MembersAgree key .record nested (some (.object v)) (some (.object w))

end

section Agreeing

variable {key : String}

/-- What a schema makes of an object depends on the members of its fields alone. -/
theorem bindFields_congr {v w : List (String × Json)} : ∀ {fields : List SchemaField},
    (∀ field ∈ fields, (field.tags.get? key).isSome = true →
      bindMember key field.kind field.nested (Json.member? field.name v)
        = bindMember key field.kind field.nested (Json.member? field.name w)) →
      bindFields key v fields = bindFields key w fields
  | [], _ => by rw [bindFields_nil, bindFields_nil]
  | .mk name kind tags nested :: fields, h => by
      rw [List.forall_mem_cons] at h
      rw [bindFields_cons, bindFields_cons, bindFields_congr h.2]
      cases hrule : tags.get? key with
      | none => rfl
      | some rule =>
          have hmember : bindMember key kind nested (Json.member? name v)
              = bindMember key kind nested (Json.member? name w) :=
            h.1 (show (tags.get? key).isSome = true by rw [hrule]; rfl)
          rw [hmember]

/-- Equal values make the same leaf. -/
theorem bindMember_same_leaf {x y : Json} (h : Json.Same x y) {kind : FieldKind}
    (hkind : kind ≠ .record) (nested : Option Schema) :
    bindMember key kind nested (some x) = bindMember key kind nested (some y) := by
  rw [bindMember, bindMember, if_neg hkind, if_neg hkind, h.ofJson?_eq kind, h.describe_eq]

/-- Equal values that are no objects make the same mismatch. -/
theorem bindMember_same_not_object {x y : Json} (h : Json.Same x y) (hx : x.isObject = false)
    (hy : y.isObject = false) (kind : FieldKind) (nested : Option Schema) :
    bindMember key kind nested (some x) = bindMember key kind nested (some y) := by
  by_cases hkind : kind = .record
  · rw [hkind, bindMember_not_object key nested hx, bindMember_not_object key nested hy,
      h.describe_eq]
  · exact bindMember_same_leaf h hkind nested

mutual

/-- **Equal values make the same value of a field.** -/
theorem bindMember_same : ∀ {x y : Json}, Json.Same x y →
    ∀ (kind : FieldKind) (nested : Option Schema),
      bindMember key kind nested (some x) = bindMember key kind nested (some y)
  | _, _, .object h, kind, nested => by
      by_cases hkind : kind = .record
      · rw [hkind, bindMember_object, bindMember_object]
        obtain ⟨fields⟩ := nested.getD .empty
        rw [bind_object, bind_object, bindFields_congr fun field _ _ =>
          bindMember_memberSame (h field.name) field.kind field.nested]
      · exact bindMember_same_leaf (.object h) hkind nested
  | _, _, .array h, kind, nested => bindMember_same_not_object (.array h) rfl rfl kind nested
  | _, _, .zero s t, kind, nested => bindMember_same_not_object (.zero s t) rfl rfl kind nested
  | _, _, .null, _, _ | _, _, .bool _, _, _ | _, _, .number _, _, _ | _, _, .string _, _, _ => rfl

theorem bindMember_memberSame : ∀ {x y : Option Json}, Json.MemberSame x y →
    ∀ (kind : FieldKind) (nested : Option Schema),
      bindMember key kind nested x = bindMember key kind nested y
  | _, _, .absent, _, _ => rfl
  | _, _, .present h, kind, nested => bindMember_same h kind nested

end

mutual

/-- **Objects that agree make the same record.** -/
theorem AgreeOn.bind_eq : ∀ {schema : Schema} {v w : List (String × Json)},
    AgreeOn key schema v w → bind key (.object v) schema = bind key (.object w) schema
  | _, _, _, .ofFields h => by
      rw [bind_object, bind_object,
        bindFields_congr fun field hfield hrule => (h field hfield hrule).bindMember_eq]

theorem MembersAgree.bindMember_eq : ∀ {kind : FieldKind} {nested : Option Schema}
    {x y : Option Json}, MembersAgree key kind nested x y →
      bindMember key kind nested x = bindMember key kind nested y
  | _, _, _, _, .absent _ _ => rfl
  | _, _, _, _, .same kind nested h => bindMember_same h kind nested
  | _, _, _, _, .objects h => by rw [bindMember_object, bindMember_object, h.bind_eq]

end

end Agreeing

/-- **Undeclared and untagged data never matters.** Two objects that agree on a schema under the
    annotation key are validated with the same events to the same report or the same error. -/
theorem agreeOn_validates_alike [PatternEngine] {config : Config} {schema : Schema}
    {v w : List (String × Json)} (h : AgreeOn config.annotationKey schema v w) :
    config.validate (bind config.annotationKey (.object v) schema)
      = config.validate (bind config.annotationKey (.object w) schema) := by
  rw [h.bind_eq]

/-- A number, a note without a rule, and an owner with a name and an age, which has no rule. -/
def memberSchema : Schema :=
  .ofFields
    [.mk "id" .int (Tags.empty.insert "validate" "min:0") none,
     .mk "note" .string .empty none,
     .mk "owner" .record (Tags.empty.insert "validate" "nested")
      (some (.ofFields
        [.mk "name" .string (Tags.empty.insert "validate" "len:3") none,
         .mk "age" .int .empty none]))]

/-- An object with all these members. -/
def declaredMembers : List (String × Json) :=
  [("id", .int (-5)), ("note", .string "new"),
   ("owner", .object [("name", .string "abcd"), ("age", .int 40)])]

/-- An owner with an age of another type and a member that nobody declares. -/
def strayOwner : List (String × Json) :=
  [("age", .null), ("id", .bool true), ("name", .string "abcd")]

/-- An object with this owner, without the note and with one more member, in another order. -/
def strayMembers : List (String × Json) :=
  [("owner", .object strayOwner), ("more", .array []), ("id", .int (-5))]

/-- What the schema makes of the latter. -/
theorem bind_strayMembers :
    bind "validate" (.object strayMembers) memberSchema
      = .ofFields
        [.mk "id" "min:0" (.leaf (.int (-5))),
         .mk "owner" "nested"
          (.record (.ofFields [.mk "name" "len:3" (.leaf (.str "abcd"))]))] := by
  have hid : bindMember "validate" .int none (Json.member? "id" strayMembers)
      = .leaf (.int (-5)) := bindMember_leaf _ (by decide) none rfl
  have howner : Json.member? "owner" strayMembers = some (.object strayOwner) := rfl
  have hname : bindMember "validate" .string none (Json.member? "name" strayOwner)
      = .leaf (.str "abcd") := bindMember_leaf _ (by decide) none rfl
  rw [memberSchema, bind_object, bindFields_cons, bindFields_cons, bindFields_cons, bindFields_nil,
    hid, howner, bindMember_object, Option.getD_some, bind_object, bindFields_cons, bindFields_cons,
    bindFields_nil, hname]
  rfl

open scoped Pattern

theorem agreeOn_validates_alike_stray :
    memberSchema.AgreeOn "validate" declaredMembers strayMembers ∧
      Config.strict.report (bind "validate" (.object strayMembers) memberSchema)
        = .ok ⟨[⟨"id", .intMin⟩, ⟨"name", .strLen⟩]⟩ ∧
      Config.strict.validate (bind "validate" (.object declaredMembers) memberSchema)
        = Config.strict.validate (bind "validate" (.object strayMembers) memberSchema) := by
  have hname : Json.Same (.string "abcd") (.string "abcd") := .string "abcd"
  have hid : Json.Same (.int (-5)) (.int (-5)) := .number _
  have hagree : memberSchema.AgreeOn "validate" declaredMembers strayMembers := by
    refine .ofFields (List.forall_mem_cons.mpr ⟨fun _ => .same _ _ hid, ?_⟩)
    refine List.forall_mem_cons.mpr ⟨nofun, List.forall_mem_singleton.mpr fun _ => ?_⟩
    refine .objects (.ofFields (List.forall_mem_cons.mpr ⟨fun _ => .same _ _ hname, ?_⟩))
    exact List.forall_mem_singleton.mpr nofun
  have hreport : Config.strict.report (bind "validate" (.object strayMembers) memberSchema)
      = .ok ⟨[⟨"id", .intMin⟩, ⟨"name", .strLen⟩]⟩ := by
    rw [bind_strayMembers]
    rfl
  exact ⟨hagree, hreport, agreeOn_validates_alike hagree⟩

end Schema

end RecordRules
