import RecordRules.Pattern.Reader
import RecordRules.Proofs.FailFast
import RecordRules.Proofs.Leaves
import RecordRules.Proofs.Schema.Binding

/-!
# Values that make no record

A value that is no object makes no record, but only at the top is that an error of its own. Inside
an object a value is asked for its fields only when it is an object, so every record that a
validation enters can be read, and a nested value that is none shows as a mismatch of its field.

* `Record.Readable` says of a record that it has fields on every level, and `bind_readable` that a
  schema makes such a record of every object;
* `EntriesOpen` says of a log that every record that is entered in it is opened at once;
  `Record.Readable.entriesOpen` follows it through a walk;
* `Record.FailsAt.isAbout`: an error of such a record is about one of its fields, at some depth;
* `Schema.Reaches` leads from a schema and an object to the schemas and objects nested in them, and
  `Reaches.inside` to the records that are made of these.

**`notARecord_iff`** says it of whole validations.
-/

namespace RecordRules

/-! ## 1. Records that can be read -/

mutual

/-- A record with fields, on every level. -/
inductive Record.Readable : Record → Prop where
  /-- Its fields. -/
  | ofFields {fields : List Field} (h : FieldsReadable fields) : Record.Readable (.ofFields fields)

/-- Fields whose nested records have fields, on every level. -/
inductive FieldsReadable : List Field → Prop where
  /-- No fields. -/
  | nil : FieldsReadable []
  /-- A leaf in front. -/
  | leaf (name rule : String) (v : Leaf) {fields : List Field} (hs : FieldsReadable fields) :
      FieldsReadable (.mk name rule (.leaf v) :: fields)
  /-- A nested record in front. -/
  | record (name rule : String) {inner : Record} {fields : List Field} (h : inner.Readable)
      (hs : FieldsReadable fields) : FieldsReadable (.mk name rule (.record inner) :: fields)

end

/-- A record nested in another one, at any depth, or that one itself. -/
inductive Record.Inside (r : Record) : Record → Prop where
  /-- The record itself. -/
  | self : Record.Inside r r
  /-- A record in one of the fields. -/
  | field {name rule : String} {inner : Record} {fields : List Field}
      (hfield : Field.mk name rule (.record inner) ∈ fields) (h : r.Inside inner) :
      Record.Inside r (.ofFields fields)

namespace Schema

section Readable

variable (key : String)

mutual

/-- **A schema makes a readable record of every object.** -/
theorem bind_readable : ∀ (schema : Schema) (members : List (String × Json)),
    (bind key (.object members) schema).Readable
  | .ofFields declared, members => by
      rw [bind_object]
      exact .ofFields (bindFields_readable declared members)

theorem bindFields_readable : ∀ (declared : List SchemaField) (members : List (String × Json)),
    FieldsReadable (bindFields key members declared)
  | [], members => by
      rw [bindFields_nil]
      exact .nil
  | .mk name kind tags nested :: declared, members => by
      have hrest := bindFields_readable declared members
      rw [bindFields_cons]
      cases tags.get? key with
      | none => exact hrest
      | some rule =>
          rcases bindMember_cases key kind nested (Json.member? name members) with
            ⟨v, hv⟩ | ⟨hkind, inside, hmember⟩
          · rw [hv]
            exact .leaf name rule v hrest
          · rw [hkind, hmember, bindMember_object]
            exact .record name rule (nested_readable nested inside) hrest

theorem nested_readable : ∀ (nested : Option Schema) (inside : List (String × Json)),
    (bind key (.object inside) (nested.getD .empty)).Readable
  | none, inside => by
      rw [Option.getD_none, empty, bind_object, bindFields_nil]
      exact .ofFields .nil
  | some schema, inside => bind_readable schema inside

end

end Readable

end Schema

/-! ## 2. Every record that is entered is opened -/

/-- The depth of the record that is entered behind an event. -/
def Event.enters? : Event → Option Nat
  | .validating _ => some 0
  | .descending _ depth => some depth
  | _ => none

/-- Behind every event that a record is entered with its fields are at hand. -/
def EntriesOpen (log : List Event) : Prop :=
  ∀ front event back depth, log = front ++ event :: back → event.enters? = some depth →
    ∃ fields rest, back = .extracted fields depth :: rest

namespace EntriesOpen

variable {log front : List Event} {event : Event}

theorem nil : EntriesOpen [] := by
  intro front event back depth h _
  cases front <;> cases h

/-- An event without a record behind it. -/
theorem cons (hevent : event.enters? = none) (h : EntriesOpen log) :
    EntriesOpen (event :: log) := by
  intro front entry back depth heq hentry
  cases front with
  | nil =>
      cases heq
      rw [hevent] at hentry
      cases hentry
  | cons first front =>
      cases heq
      exact h front entry back depth rfl hentry

/-- An event that a record is entered with, and behind it the opening. -/
theorem entry {depth fields : Nat} (hevent : event.enters? = some depth)
    (h : EntriesOpen (.extracted fields depth :: log)) :
    EntriesOpen (event :: .extracted fields depth :: log) := by
  intro front entry back depth' heq hentry
  cases front with
  | nil =>
      cases heq
      rw [hevent] at hentry
      cases hentry
      exact ⟨fields, log, rfl⟩
  | cons first front =>
      rw [List.cons_append, List.cons.injEq] at heq
      exact h front entry back depth' heq.2 hentry

theorem append (hfront : EntriesOpen front) (h : EntriesOpen log) : EntriesOpen (front ++ log) := by
  intro before entry back depth heq hentry
  rcases List.append_eq_append_iff.mp heq with ⟨as, rfl, hlog⟩ | ⟨as, rfl, hrest⟩
  · exact h as entry back depth hlog hentry
  · cases as with
    | nil => exact h [] entry back depth hrest.symm hentry
    | cons a as =>
        cases hrest
        obtain ⟨fields, rest, rfl⟩ := hfront before entry as depth rfl hentry
        exact ⟨fields, rest ++ log, rfl⟩

end EntriesOpen

section Walks

variable {config : Config}

theorem Walk.log_andThen_cases (w v : Walk) :
    (w.andThen v).log = w.log ∨ (w.andThen v).log = w.log ++ v.log := by
  cases hw : w.result with
  | error e => rw [Walk.andThen_of_error hw]; exact Or.inl rfl
  | ok vs => rw [Walk.andThen_of_ok hw]; exact Or.inr rfl

theorem EntriesOpen.andThen {w v : Walk} (hw : EntriesOpen w.log) (hv : EntriesOpen v.log) :
    EntriesOpen (w.andThen v).log := by
  rcases w.log_andThen_cases v with h | h
  · rw [h]
    exact hw
  · rw [h]
    exact hw.append hv

/-- A walk that opens its record first, and then every record that it enters. -/
def Walk.Opens (depth : Nat) (w : Walk) : Prop :=
  (∃ fields rest, w.log = .extracted fields depth :: rest) ∧ EntriesOpen w.log

theorem Walk.Opens.perClause {depth : Nat} {inner : Walk} (field : String)
    (h : inner.Opens depth) : ∀ conditions : List Condition,
      EntriesOpen (Walk.perClause field depth inner conditions).log
  | [] => .nil
  | c :: cs => by
      by_cases hc : c.operator = nestedOperator
      · obtain ⟨⟨fields, rest, hlog⟩, hopen⟩ := h
        rw [perClause_cons_nested hc]
        refine EntriesOpen.andThen ?_ (perClause field ⟨⟨fields, rest, hlog⟩, hopen⟩ cs)
        rw [log_after, hlog]
        rw [hlog] at hopen
        exact .entry rfl hopen
      · rw [perClause_cons_other hc]
        exact .nil

theorem Walk.Opens.perRule {depth : Nat} {inner : Walk} (field rule : String)
    (h : inner.Opens depth) : EntriesOpen (Walk.perRule field rule depth inner).log := by
  cases hp : Rule.parse rule with
  | error e =>
      rw [perRule_of_error hp]
      exact .nil
  | ok conditions =>
      rw [perRule_of_ok hp]
      exact h.perClause field conditions

theorem Walk.Opens.ofRecord (fields depth : Nat) {w : Walk} (h : EntriesOpen w.log) :
    (w.ofRecord fields depth).Opens depth := by
  cases hw : w.result with
  | error e =>
      rw [Opens, log_ofRecord_of_error hw]
      exact ⟨⟨fields, _, rfl⟩, .cons rfl (h.append (.cons rfl .nil))⟩
  | ok vs =>
      rw [Opens, log_ofRecord_of_ok hw]
      exact ⟨⟨fields, _, rfl⟩, .cons rfl (h.append (.cons rfl .nil))⟩

variable [PatternEngine]

mutual

/-- **Every record that a walk enters can be read when the whole record can.** -/
theorem Record.Readable.opens (depth : Nat) : ∀ {r : Record}, r.Readable →
    (r.walk config depth).Opens depth
  | _, .ofFields h => .ofRecord _ depth (FieldsReadable.entriesOpen depth h)

theorem FieldsReadable.entriesOpen (depth : Nat) : ∀ {fields : List Field},
    FieldsReadable fields → EntriesOpen (walkFields config depth fields).log
  | _, .nil => .nil
  | _, .leaf name rule v hs => by
      rw [walkFields_leaf]
      exact .andThen (.cons rfl .nil) (FieldsReadable.entriesOpen depth hs)
  | _, .record name rule h hs => by
      rw [walkFields_record]
      exact .andThen (.cons rfl ((Record.Readable.opens (depth + 1) h).perRule name rule))
        (FieldsReadable.entriesOpen depth hs)

end

/-- The log of a whole validation begins with the entry into the outermost record. -/
theorem Record.Readable.validate_entriesOpen {r : Record} (h : r.Readable) :
    EntriesOpen (config.validate r).log := by
  have hwalk : (r.walk config 0).Opens 0 := h.opens 0
  obtain ⟨⟨fields, rest, hlog⟩, hopen⟩ := hwalk
  rw [hlog] at hopen
  have hentry : EntriesOpen (.validating config.annotationKey :: .extracted fields 0 :: rest) :=
    .entry rfl hopen
  cases hresult : (r.walk config 0).result with
  | error e =>
      rw [validate_of_error hresult, hlog]
      exact hentry
  | ok vs =>
      rw [validate_of_ok hresult, hlog]
      exact hentry.append (.cons rfl .nil)

end Walks

/-! ## 3. Errors of readable records -/

section Errors

variable {config : Config} {r : Record}

theorem FieldsReadable.of_mem {name rule : String} {inner : Record} : ∀ {fields : List Field},
    FieldsReadable fields → Field.mk name rule (.record inner) ∈ fields → inner.Readable
  | _, .nil, h => absurd h List.not_mem_nil
  | _, .leaf name' rule' v hs, h => by
      rcases List.mem_cons.mp h with heq | hmem
      · cases heq
      · exact hs.of_mem hmem
  | _, .record name' rule' hinner hs, h => by
      rcases List.mem_cons.mp h with heq | hmem
      · cases heq
        exact hinner
      · exact hs.of_mem hmem

/-- Every record inside a readable one has fields. -/
theorem Record.Readable.exists_fields (h : r.Readable) {s : Record} (hs : s.Inside r) :
    ∃ fields, s = .ofFields fields := by
  induction hs with
  | self =>
      cases h with
      | ofFields h => exact ⟨_, rfl⟩
  | field hfield _ ih =>
      cases h with
      | ofFields h => exact ih (h.of_mem hfield)

theorem SetupError.not_isAbout_notARecord (actual field rule : String) :
    ¬ (SetupError.notARecord actual).IsAbout field rule := by
  rintro (h | ⟨clause, h⟩)
  · cases h
  · cases h

variable [PatternEngine]

theorem Field.FailsItself.isAbout {field : Field} {e : SetupError}
    (h : field.FailsItself config e) : e.IsAbout field.name field.rule := by
  cases h with
  | leaf h => exact Leaf.isAbout_of_outcome h
  | unreadableRule h => exact Or.inr (Rule.parse_eq_error h)
  | foreignOperator hrule hfront hc hinner => exact Or.inl rfl

/-- **An error of a readable record is about a field.** -/
theorem Record.FailsAt.isAbout {place : Place} {e : SetupError} (h : r.FailsAt config place e) :
    r.Readable → ∃ field rule, e.IsAbout field rule := by
  induction h with
  | record e =>
      intro hr
      cases hr
  | field hfront h =>
      intro _
      exact ⟨_, _, h.isAbout⟩
  | inside hfront hrule hc _ ih =>
      intro hr
      cases hr with
      | ofFields hfields =>
          exact ih (hfields.of_mem (List.mem_append_right _ List.mem_cons_self))

/-- So a readable record never fails for want of fields. -/
theorem Record.Readable.report_ne_notARecord (h : r.Readable) (actual : String) :
    config.report r ≠ .error (.notARecord actual) := by
  intro herror
  obtain ⟨place, hplace⟩ := report_eq_error_iff_failsAt.mp herror
  obtain ⟨field, rule, habout⟩ := hplace.isAbout h
  exact SetupError.not_isAbout_notARecord actual field rule habout

end Errors

/-! ## 4. Schemas and values -/

namespace Schema

/-- The way from a schema and the members of an object down to a schema and the members of an object
    nested in it, through declared records with a rule. -/
inductive Reaches (key : String) (inner : Schema) (inside : List (String × Json)) :
    Schema → List (String × Json) → Prop where
  /-- They are there. -/
  | self : Reaches key inner inside inner inside
  /-- They are nested in the member of a field. -/
  | field {name rule : String} {tags : Tags} {nested : Option Schema} {fields : List SchemaField}
      {members next : List (String × Json)} (hfield : .mk name .record tags nested ∈ fields)
      (hrule : tags.get? key = some rule)
      (hmember : Json.member? name members = some (.object next))
      (h : Reaches key inner inside (nested.getD .empty) next) :
      Reaches key inner inside (.ofFields fields) members

/-- The record that is made down there is inside the record that is made up here. -/
theorem Reaches.inside {key : String} {schema inner : Schema}
    {members inside : List (String × Json)} (h : Reaches key inner inside schema members) :
    (bind key (.object inside) inner).Inside (bind key (.object members) schema) := by
  induction h with
  | self => exact .self
  | @field name rule tags nested fields members next hfield hrule hmember _ ih =>
      have hmem := mem_bindFields key members hrule hfield
      rw [hmember, bindMember_object] at hmem
      rw [bind_object]
      exact .field hmem ih

/-- A declared record that is no object is a mismatch, and fails as one when it is looked at. -/
theorem mismatch_of_not_object [PatternEngine] (config : Config) {name rule : String}
    {tags : Tags} {nested : Option Schema} {declared : List SchemaField}
    {members : List (String × Json)} {member : Json}
    (hfield : .mk name .record tags nested ∈ declared)
    (hrule : tags.get? config.annotationKey = some rule)
    (hmember : Json.member? name members = some member) (hnot : member.isObject = false) :
    Field.mk name rule (.leaf (.mismatch .record member.describe))
        ∈ bindFields config.annotationKey members declared ∧
      ∀ depth, (Field.mk name rule (.leaf (.mismatch .record member.describe))).walk config depth
        = ⟨[.dispatching name .record rule depth],
          .error (.valueMismatch name .record member.describe)⟩ := by
  have hmem := mem_bindFields config.annotationKey members hrule hfield
  rw [hmember, bindMember_not_object _ _ hnot] at hmem
  exact ⟨hmem, fun _ => rfl⟩

/-- **Only a value at the top is no record.** A validation fails for want of fields exactly when the
    value is no object, and then it does nothing else. For an object every record that is entered
    is opened at once, at whatever depth and in every round through it, and every record inside has
    fields; and wherever a declared record is no object, its field is a mismatch that ends the
    validation as soon as it is looked at, and nothing is entered. -/
theorem notARecord_iff [PatternEngine] (config : Config) (schema : Schema) (value : Json) :
    ((∃ actual, config.report (bind config.annotationKey value schema)
        = .error (.notARecord actual)) ↔ value.isObject = false) ∧
    (value.isObject = false →
      config.validate (bind config.annotationKey value schema)
        = ⟨[.validating config.annotationKey, .aborted (.notARecord value.typeName) 0],
          .error (.notARecord value.typeName)⟩) ∧
    (∀ members, value = .object members →
      EntriesOpen (config.validate (bind config.annotationKey value schema)).log ∧
      (∀ r : Record, r.Inside (bind config.annotationKey value schema) →
        ∃ fields, r = .ofFields fields) ∧
      ∀ declared inside, Reaches config.annotationKey (.ofFields declared) inside schema members →
        (bind config.annotationKey (.object inside) (.ofFields declared)).Inside
            (bind config.annotationKey value schema) ∧
        ∀ name tags nested rule member, .mk name .record tags nested ∈ declared →
          tags.get? config.annotationKey = some rule → Json.member? name inside = some member →
          member.isObject = false →
            ∃ fields, bind config.annotationKey (.object inside) (.ofFields declared)
                = .ofFields fields ∧
              Field.mk name rule (.leaf (.mismatch .record member.describe)) ∈ fields ∧
              ∀ depth, (Field.mk name rule (.leaf (.mismatch .record member.describe))).walk config
                  depth
                = ⟨[.dispatching name .record rule depth],
                  .error (.valueMismatch name .record member.describe)⟩) := by
  have htop : value.isObject = false →
      config.validate (bind config.annotationKey value schema)
        = ⟨[.validating config.annotationKey, .aborted (.notARecord value.typeName) 0],
          .error (.notARecord value.typeName)⟩ := by
    intro hvalue
    rw [bind_not_object _ hvalue]
    rfl
  refine ⟨⟨?_, ?_⟩, htop, ?_⟩
  · rintro ⟨actual, herror⟩
    cases value with
    | object members =>
        have hreadable := bind_readable config.annotationKey schema members
        exact absurd herror (hreadable.report_ne_notARecord actual)
    | null | bool b | number n | string s | array items => rfl
  · intro hvalue
    refine ⟨value.typeName, ?_⟩
    rw [Config.report, htop hvalue]
    rfl
  · rintro members rfl
    have hreadable := bind_readable config.annotationKey schema members
    refine ⟨hreadable.validate_entriesOpen, fun r hr => hreadable.exists_fields hr, ?_⟩
    intro declared inside hreaches
    refine ⟨hreaches.inside, ?_⟩
    intro name tags nested rule member hfield hrule hmember hnot
    obtain ⟨hmem, hwalk⟩ := mismatch_of_not_object config hfield hrule hmember hnot
    exact ⟨_, bind_object _ _ _, hmem, hwalk⟩

/-- A number, and a record without a schema of its own. -/
def innerFields : List SchemaField :=
  [.mk "n" .int (Tags.empty.insert "validate" "min:0") none,
   .mk "inner" .record (Tags.empty.insert "validate" "nested") none]

/-- A record of these under a rule that leads into it twice. -/
def outerSchema : Schema :=
  .ofFields
    [.mk "outer" .record (Tags.empty.insert "validate" "nested|nested")
      (some (.ofFields innerFields))]

/-- Members for the former, with an array where the record should be. -/
def innerArray : List (String × Json) :=
  [("n", .int (-1)), ("inner", .array [])]

/-- Members for the latter. -/
def outerArray : List (String × Json) :=
  [("outer", .object innerArray)]

/-- What the schema makes of them. -/
theorem bind_outerArray :
    bind "validate" (.object outerArray) outerSchema
      = .ofFields
        [.mk "outer" "nested|nested"
          (.record (.ofFields
            [.mk "n" "min:0" (.leaf (.int (-1))),
             .mk "inner" "nested" (.leaf (.mismatch .record "array of int"))]))] := by
  have houter : Json.member? "outer" outerArray = some (.object innerArray) := rfl
  have hn : bindMember "validate" .int none (Json.member? "n" innerArray) = .leaf (.int (-1)) :=
    bindMember_leaf _ (by decide) none rfl
  have hinner : bindMember "validate" .record none (Json.member? "inner" innerArray)
      = .leaf (.mismatch .record "array of int") := bindMember_not_object _ none rfl
  rw [outerSchema, bind_object, bindFields_cons, bindFields_nil, houter, bindMember_object,
    Option.getD_some, innerFields, bind_object, bindFields_cons, bindFields_cons, bindFields_nil,
    hn, hinner]
  rfl

open scoped Pattern

theorem notARecord_iff_outerArray :
    Config.standard.validate (bind "validate" .null outerSchema)
        = ⟨[.validating "validate", .aborted (.notARecord "null") 0],
          .error (.notARecord "null")⟩ ∧
      Config.standard.report (bind "validate" (.object outerArray) outerSchema)
        = .error (.valueMismatch "inner" .record "array of int") ∧
      EntriesOpen (Config.standard.validate
        (bind "validate" (.object outerArray) outerSchema)).log ∧
      (bind "validate" (.object innerArray) (.ofFields innerFields)).Inside
        (bind "validate" (.object outerArray) outerSchema) ∧
      ∃ fields, bind "validate" (.object innerArray) (.ofFields innerFields) = .ofFields fields ∧
        Field.mk "inner" "nested" (.leaf (.mismatch .record "array of int")) ∈ fields := by
  have hreport : Config.standard.report (bind "validate" (.object outerArray) outerSchema)
      = .error (.valueMismatch "inner" .record "array of int") := by
    rw [bind_outerArray]
    rfl
  have hreaches : Reaches "validate" (.ofFields innerFields) innerArray outerSchema outerArray :=
    .field List.mem_cons_self rfl rfl .self
  have hinner : SchemaField.mk "inner" .record (Tags.empty.insert "validate" "nested") none
      ∈ innerFields := List.mem_cons_of_mem _ List.mem_cons_self
  obtain ⟨-, hnull, -⟩ := notARecord_iff .standard outerSchema .null
  obtain ⟨-, -, hobject⟩ := notARecord_iff .standard outerSchema (.object outerArray)
  obtain ⟨hopen, -, hdown⟩ := hobject outerArray rfl
  obtain ⟨hinside, hmismatch⟩ := hdown innerFields innerArray hreaches
  obtain ⟨fields, hfields, hmem, -⟩ := hmismatch "inner" _ none _ _ hinner rfl rfl rfl
  exact ⟨hnull rfl, hreport, hopen, hinside, fields, hfields, hmem⟩

end Schema

end RecordRules
