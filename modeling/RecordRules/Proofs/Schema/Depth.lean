import RecordRules.Pattern.Reader
import RecordRules.Proofs.Schema.Binding
import RecordRules.Proofs.Walk

/-!
# How deep a validation goes

A walk goes down with the records nested in a record, and a schema makes a nested record only where
it declares one with a rule and the value has an object. So the schema alone says how deep a
validation may go and how many events it may have; a value can only make it end earlier, and a rule
only decides how often the same records are walked through.

* `Record.height` and `Record.steps` are the two bounds of a record;
* `Walk.Within` says of a walk that it keeps to such bounds and goes through everything that walks
  are built from, hence `Record.walk_within`;
* `Schema.depth` and `Schema.steps` are the bounds of a schema, `Json.levels` is that of a value;
* `Schema.bind_bounded`: what a schema makes of a value keeps to all three.

**`validation_bounded_by_schema`** says it of whole validations.
-/

namespace RecordRules

/-! ## 1. Walks within bounds -/

/-- A walk with so many events at most, none of them deeper than a depth. -/
structure Walk.Within (deepest steps : Nat) (w : Walk) : Prop where
  /-- No event is deeper. -/
  depth_le : ∀ event ∈ w.log, ∀ d ∈ event.depth?, d ≤ deepest
  /-- There are no more events. -/
  length_le : w.log.length ≤ steps

/-- An event of a known depth goes no deeper than that. -/
theorem Event.forall_depth_le {event : Event} {depth deepest : Nat}
    (hevent : event.depth? = some depth) (hdepth : depth ≤ deepest) :
    ∀ d ∈ event.depth?, d ≤ deepest := by
  intro d hd
  have heq : depth = d := Option.some.inj (hevent.symm.trans hd)
  rw [← heq]
  exact hdepth

namespace Walk.Within

variable {w v inner : Walk} {deepest deepest' m n steps : Nat} {depth : Nat}

theorem done : Within deepest 0 .done where
  depth_le _ h := absurd h List.not_mem_nil
  length_le := Nat.le_refl 0

theorem fail (e : SetupError) : Within deepest n (.fail e) where
  depth_le _ h := absurd h List.not_mem_nil
  length_le := Nat.zero_le n

/-- Bounds may be widened. -/
theorem mono (h : Within deepest m w) (hdeepest : deepest ≤ deepest') (hsteps : m ≤ n) :
    Within deepest' n w where
  depth_le event hevent d hd := Nat.le_trans (h.depth_le event hevent d hd) hdeepest
  length_le := Nat.le_trans h.length_le hsteps

/-- One event before a walk. -/
theorem after {event : Event} (hevent : ∀ d ∈ event.depth?, d ≤ deepest)
    (h : Within deepest n w) : Within deepest (n + 1) (w.after event) where
  depth_le := by
    rw [log_after, List.forall_mem_cons]
    exact ⟨hevent, h.depth_le⟩
  length_le := Nat.succ_le_succ h.length_le

/-- The second of two walks is dropped when the first fails, so the bound counts it at most. -/
theorem andThen (hw : Within deepest m w) (hv : Within deepest n v) :
    Within deepest (m + n) (w.andThen v) := by
  cases hresult : w.result with
  | error e =>
      rw [andThen_of_error hresult]
      exact ⟨hw.depth_le, Nat.le_trans hw.length_le (Nat.le_add_right m n)⟩
  | ok vs =>
      rw [andThen_of_ok hresult]
      refine ⟨List.forall_mem_append.mpr ⟨hw.depth_le, hv.depth_le⟩, ?_⟩
      rw [List.length_append]
      exact Nat.add_le_add hw.length_le hv.length_le

/-- **Clauses walk through the same record over and over**, and none of them goes deeper. -/
theorem perClause (field : String) (hdepth : depth ≤ deepest) (h : Within deepest n inner) :
    ∀ conditions : List Condition,
      Within deepest (conditions.length * (n + 1)) (perClause field depth inner conditions)
  | [] => by
      rw [perClause_nil, List.length_nil, Nat.zero_mul]
      exact done
  | c :: cs => by
      by_cases hc : c.operator = nestedOperator
      · have hround : Within deepest (n + 1) (inner.after (.descending field depth)) :=
          h.after (Event.forall_depth_le rfl hdepth)
        have ih := perClause field hdepth h cs
        rw [perClause_cons_nested hc, List.length_cons, Nat.succ_mul, Nat.add_comm]
        exact hround.andThen ih
      · rw [perClause_cons_other hc]
        exact fail _

/-- Whatever a rule says, its clauses are all that it can ask for. -/
theorem perRule (field rule : String) (hdepth : depth ≤ deepest) (h : Within deepest n inner) :
    Within deepest (Rule.clauseCount rule * (n + 1)) (perRule field rule depth inner) := by
  cases hrule : Rule.parse rule with
  | error e =>
      rw [perRule_of_error hrule]
      exact fail e
  | ok conditions =>
      rw [perRule_of_ok hrule, ← Rule.length_of_parse hrule]
      exact perClause field hdepth h conditions

/-- A record adds its two events. -/
theorem ofRecord (fields : Nat) (hdepth : depth ≤ deepest) (h : Within deepest n w) :
    Within deepest (n + 2) (w.ofRecord fields depth) := by
  -- the last event differs, but not in its depth
  have hframe : ∀ last : Event, last.depth? = some depth →
      (w.ofRecord fields depth).log = .extracted fields depth :: w.log ++ [last] →
        Within deepest (n + 2) (w.ofRecord fields depth) := by
    intro last hlast hlog
    refine ⟨?_, ?_⟩
    · rw [hlog, List.forall_mem_append, List.forall_mem_cons, List.forall_mem_singleton]
      exact ⟨⟨Event.forall_depth_le rfl hdepth, h.depth_le⟩, Event.forall_depth_le hlast hdepth⟩
    · have hlength := h.length_le
      rw [hlog, List.length_append, List.length_cons, List.length_singleton]
      omega
  cases hresult : w.result with
  | error e => exact hframe _ rfl (log_ofRecord_of_error hresult fields depth)
  | ok vs => exact hframe _ rfl (log_ofRecord_of_ok hresult fields depth)

end Walk.Within

/-! ## 2. Records -/

mutual

/-- How many records lie in each other inside a record. -/
def Record.height : Record → Nat
  | .unreadable _ => 0
  | .ofFields fields => fieldsHeight fields

/-- How many records lie in each other in the values of fields. -/
def fieldsHeight : List Field → Nat
  | [] => 0
  | .mk _ _ (.leaf _) :: fields => fieldsHeight fields
  | .mk _ _ (.record inner) :: fields => max (inner.height + 1) (fieldsHeight fields)

end

mutual

/-- The events of a walk through a record when nothing ends it. -/
def Record.steps : Record → Nat
  | .unreadable _ => 1
  | .ofFields fields => fieldsSteps fields + 2

/-- The events of a walk through fields when nothing ends it. -/
def fieldsSteps : List Field → Nat
  | [] => 0
  | .mk _ _ (.leaf _) :: fields => 1 + fieldsSteps fields
  | .mk _ rule (.record inner) :: fields =>
    Rule.clauseCount rule * (inner.steps + 1) + 1 + fieldsSteps fields

end

section Records

variable [PatternEngine] (config : Config)

mutual

/-- **A walk through a record goes as deep as records are nested in it** and has no more events than
    its fields and clauses make. -/
theorem Record.walk_within (depth : Nat) : ∀ record : Record,
    (record.walk config depth).Within (depth + record.height) record.steps
  | .unreadable e => by
      refine ⟨?_, Nat.le_refl 1⟩
      rw [Record.walk_unreadable, List.forall_mem_singleton]
      exact Event.forall_depth_le rfl (Nat.le_refl depth)
  | .ofFields fields => by
      rw [Record.walk_ofFields]
      exact (walkFields_within depth fields).ofRecord fields.length (Nat.le_add_right depth _)

theorem walkFields_within (depth : Nat) : ∀ fields : List Field,
    (walkFields config depth fields).Within (depth + fieldsHeight fields) (fieldsSteps fields)
  | [] => .done
  | .mk name rule (.leaf v) :: fields => by
      have hleaf : Walk.Within (depth + fieldsHeight fields) 1
          ⟨[.dispatching name v.kind rule depth], v.outcome config name rule⟩ := by
        refine ⟨?_, Nat.le_refl 1⟩
        rw [List.forall_mem_singleton]
        exact Event.forall_depth_le rfl (Nat.le_add_right depth _)
      rw [walkFields_leaf]
      exact hleaf.andThen (walkFields_within depth fields)
  | .mk name rule (.record inner) :: fields => by
      have hheight : fieldsHeight (.mk name rule (.record inner) :: fields)
          = max (inner.height + 1) (fieldsHeight fields) := rfl
      have hinner : (inner.walk config (depth + 1)).Within
          (depth + max (inner.height + 1) (fieldsHeight fields)) inner.steps :=
        (Record.walk_within (depth + 1) inner).mono (by omega) (Nat.le_refl _)
      have hrest : (walkFields config depth fields).Within
          (depth + max (inner.height + 1) (fieldsHeight fields)) (fieldsSteps fields) :=
        (walkFields_within depth fields).mono (by omega) (Nat.le_refl _)
      have hdescend : depth + 1 ≤ depth + max (inner.height + 1) (fieldsHeight fields) := by
        omega
      have hdispatch : depth ≤ depth + max (inner.height + 1) (fieldsHeight fields) :=
        Nat.le_add_right depth _
      have hrounds := hinner.perRule name rule hdescend
      rw [walkFields_record, hheight]
      exact (hrounds.after (Event.forall_depth_le rfl hdispatch)).andThen hrest

end

end Records

/-! ## 3. Schemas and values -/

namespace Schema

mutual

/-- How deep a schema nests under a key: not at all without a field of a record that has a rule, and
    otherwise one deeper than the deepest schema nested in such a field. -/
def depth (key : String) : Schema → Nat
  | .ofFields declared => declaredDepth key declared

/-- How deep declared fields nest. -/
def declaredDepth (key : String) : List SchemaField → Nat
  | [] => 0
  | .mk _ kind tags nested :: declared =>
    if kind = .record ∧ (tags.get? key).isSome then
      max (nestedDepth key nested + 1) (declaredDepth key declared)
    else declaredDepth key declared

/-- How deep a nested schema nests; without one it is the empty schema. -/
def nestedDepth (key : String) : Option Schema → Nat
  | none => 0
  | some schema => schema.depth key

end

mutual

/-- The events that a validation under a schema has at most inside its record. -/
def steps (key : String) : Schema → Nat
  | .ofFields declared => declaredSteps key declared + 2

/-- The events of declared fields. A field of a record with a rule has its own event, and for every
    clause a descent and the events of the nested schema. -/
def declaredSteps (key : String) : List SchemaField → Nat
  | [] => 0
  | .mk _ kind tags nested :: declared =>
    match tags.get? key with
    | none => declaredSteps key declared
    | some rule =>
      (if kind = .record then Rule.clauseCount rule * (nestedSteps key nested + 1) + 1 else 1)
        + declaredSteps key declared

/-- The events of a nested schema; without one it is the empty schema. -/
def nestedSteps (key : String) : Option Schema → Nat
  | none => 2
  | some schema => schema.steps key

end

end Schema

namespace Json

mutual

/-- The levels of objects in a value that are reached through members only. -/
def levels : Json → Nat
  | .object members => memberLevels members + 1
  | _ => 0

/-- The levels of objects in members. -/
def memberLevels : List (String × Json) → Nat
  | [] => 0
  | (_, value) :: members => max value.levels (memberLevels members)

end

/-- A member has no more levels than all members. -/
theorem levels_le_of_member? {name : String} {value : Json} : ∀ {members : List (String × Json)},
    member? name members = some value → value.levels ≤ memberLevels members
  | [], h => by cases h
  | (other, first) :: members, h => by
      rw [memberLevels]
      rw [member?] at h
      split at h
      · cases h
        exact Nat.le_max_left _ _
      · exact Nat.le_trans (levels_le_of_member? h) (Nat.le_max_right _ _)

/-- An object has a level of its own. -/
theorem levels_pos {value : Json} (h : value.isObject = true) : 0 < value.levels := by
  cases value with
  | object members => exact Nat.succ_pos _
  | null | bool | number | string | array => cases h

end Json

/-! ## 4. Records that a schema makes -/

namespace Schema

variable (key : String)

mutual

/-- **What a schema makes of an object is bounded by both**: in its height by either of them, and in
    its events by the schema. -/
theorem bind_bounded : ∀ (schema : Schema) (members : List (String × Json)),
    (bind key (.object members) schema).height ≤ schema.depth key ∧
      (bind key (.object members) schema).height ≤ Json.memberLevels members ∧
      (bind key (.object members) schema).steps ≤ schema.steps key
  | .ofFields declared, members => by
      obtain ⟨hdepth, hlevels, hsteps⟩ := bindFields_bounded declared members
      rw [bind_object]
      exact ⟨hdepth, hlevels, Nat.add_le_add_right hsteps 2⟩

theorem bindFields_bounded : ∀ (declared : List SchemaField) (members : List (String × Json)),
    fieldsHeight (bindFields key members declared) ≤ declaredDepth key declared ∧
      fieldsHeight (bindFields key members declared) ≤ Json.memberLevels members ∧
      fieldsSteps (bindFields key members declared) ≤ declaredSteps key declared
  | [], members => by
      rw [bindFields_nil]
      exact ⟨Nat.le_refl 0, Nat.zero_le _, Nat.le_refl 0⟩
  | .mk name kind tags nested :: declared, members => by
      obtain ⟨hdepth, hlevels, hsteps⟩ := bindFields_bounded declared members
      rw [bindFields_cons, declaredDepth, declaredSteps]
      cases hrule : tags.get? key with
      | none =>
          rw [if_neg (by simp)]
          exact ⟨hdepth, hlevels, hsteps⟩
      | some rule =>
          rcases bindMember_cases key kind nested (Json.member? name members) with
            ⟨v, hv⟩ | ⟨hkind, inside, hmember⟩
          · rw [hv]
            refine ⟨?_, hlevels, ?_⟩
            · split
              · exact Nat.le_trans hdepth (Nat.le_max_right _ _)
              · exact hdepth
            · show 1 + fieldsSteps (bindFields key members declared)
                ≤ (if kind = .record then _ else 1) + declaredSteps key declared
              split
              · omega
              · omega
          · obtain ⟨ndepth, nlevels, nsteps⟩ := nested_bounded nested inside
            have hinside : Json.memberLevels inside + 1 ≤ Json.memberLevels members :=
              Json.levels_le_of_member? hmember
            have hrounds : Rule.clauseCount rule
                  * ((bind key (.object inside) (nested.getD .empty)).steps + 1)
                ≤ Rule.clauseCount rule * (nestedSteps key nested + 1) :=
              Nat.mul_le_mul_left _ (Nat.succ_le_succ nsteps)
            rw [hkind, hmember, bindMember_object, if_pos ⟨rfl, rfl⟩]
            refine ⟨?_, ?_, ?_⟩
            · exact Nat.max_le.mpr ⟨Nat.le_trans (Nat.succ_le_succ ndepth) (Nat.le_max_left _ _),
                Nat.le_trans hdepth (Nat.le_max_right _ _)⟩
            · exact Nat.max_le.mpr ⟨Nat.le_trans (Nat.succ_le_succ nlevels) hinside, hlevels⟩
            · exact Nat.add_le_add (Nat.succ_le_succ hrounds) hsteps

theorem nested_bounded : ∀ (nested : Option Schema) (inside : List (String × Json)),
    (bind key (.object inside) (nested.getD .empty)).height ≤ nestedDepth key nested ∧
      (bind key (.object inside) (nested.getD .empty)).height ≤ Json.memberLevels inside ∧
      (bind key (.object inside) (nested.getD .empty)).steps ≤ nestedSteps key nested
  | none, inside => by
      rw [Option.getD_none, empty, bind_object, bindFields_nil]
      exact ⟨Nat.le_refl 0, Nat.zero_le _, Nat.le_refl 2⟩
  | some schema, inside => bind_bounded schema inside

end

/-- And a value that is no object goes nowhere. -/
theorem bind_bounds (schema : Schema) (value : Json) :
    (bind key value schema).height ≤ schema.depth key ∧
      (bind key value schema).height ≤ value.levels - 1 ∧
      (bind key value schema).steps ≤ schema.steps key := by
  cases hobject : value.isObject with
  | false =>
      obtain ⟨declared⟩ := schema
      rw [bind_not_object key hobject]
      refine ⟨Nat.zero_le _, Nat.zero_le _, ?_⟩
      show 1 ≤ declaredSteps key declared + 2
      omega
  | true =>
      cases value with
      | object members => exact bind_bounded key schema members
      | null | bool | number | string | array => cases hobject

end Schema

/-! ## 5. Whole validations -/

section Whole

variable [PatternEngine]

/-- A validation with its two events keeps to the bounds of its record. -/
theorem validate_within (config : Config) (record : Record) :
    (config.validate record).Within record.height (record.steps + 2) := by
  obtain ⟨hdepth, hlength⟩ := Record.walk_within config 0 record
  rw [Nat.zero_add] at hdepth
  have hnone : ∀ event : Event, event.depth? = none → ∀ d ∈ event.depth?, d ≤ record.height := by
    intro event hevent d hd
    rw [hevent] at hd
    cases hd
  cases hresult : (record.walk config 0).result with
  | error e =>
      rw [validate_of_error hresult]
      refine ⟨List.forall_mem_cons.mpr ⟨hnone _ rfl, hdepth⟩, ?_⟩
      rw [List.length_cons]
      omega
  | ok vs =>
      rw [validate_of_ok hresult]
      refine ⟨List.forall_mem_append.mpr ⟨List.forall_mem_cons.mpr ⟨hnone _ rfl, hdepth⟩,
        List.forall_mem_singleton.mpr (hnone _ rfl)⟩, ?_⟩
      rw [List.length_append, List.length_cons, List.length_singleton]
      omega

/-- A validation comes to an end that its last event shows: the end of the validation with its
    report, or the outermost record left with the error. -/
theorem validate_ends (config : Config) (record : Record) :
    (∃ report, config.report record = .ok report ∧
        (config.validate record).log.getLast? = some (.finished report.length)) ∨
      ∃ e, config.report record = .error e ∧
        (config.validate record).log.getLast? = some (.aborted e 0) := by
  cases hresult : config.report record with
  | ok report =>
      refine Or.inl ⟨report, rfl, ?_⟩
      rw [log_of_report hresult, List.getLast?_concat]
  | error e =>
      refine Or.inr ⟨e, rfl, ?_⟩
      rw [log_of_error hresult]
      rw [report_eq_error] at hresult
      cases record with
      | unreadable d =>
          cases hresult
          rfl
      | ofFields fields =>
          rw [Record.walk_ofFields, Walk.result_ofRecord] at hresult
          rw [Record.walk_ofFields, Walk.log_ofRecord_of_error hresult, ← List.cons_append,
            List.getLast?_concat]

/-- **A validation is bounded by its schema.** Whatever a value holds and whatever the rules say, it
    comes to its end within so many events as the schema has under the key, and none of them is
    deeper than the schema nests records with rules under that key. Nor does it go deeper than an
    object has levels: its own level is the first, at depth zero. -/
theorem validation_bounded_by_schema (config : Config) (schema : Schema) (value : Json) :
    ((∃ report, config.report (schema.bind config.annotationKey value) = .ok report ∧
        (config.validate (schema.bind config.annotationKey value)).log.getLast?
          = some (.finished report.length)) ∨
      (∃ e, config.report (schema.bind config.annotationKey value) = .error e ∧
        (config.validate (schema.bind config.annotationKey value)).log.getLast?
          = some (.aborted e 0))) ∧
    (config.validate (schema.bind config.annotationKey value)).log.length
      ≤ schema.steps config.annotationKey + 2 ∧
    ∀ event ∈ (config.validate (schema.bind config.annotationKey value)).log,
      ∀ d ∈ event.depth?,
        d ≤ schema.depth config.annotationKey ∧ (value.isObject = true → d < value.levels) := by
  obtain ⟨hdepth, hlevels, hsteps⟩ := Schema.bind_bounds config.annotationKey schema value
  obtain ⟨hevents, hlength⟩ :=
    validate_within config (schema.bind config.annotationKey value)
  refine ⟨validate_ends config _, Nat.le_trans hlength (Nat.add_le_add_right hsteps 2), ?_⟩
  intro event hevent d hd
  have hheight := hevents event hevent d hd
  refine ⟨Nat.le_trans hheight hdepth, ?_⟩
  intro hobject
  have hlevel : 0 < value.levels := Json.levels_pos hobject
  omega

end Whole

/-- A record under two clauses, with a record inside that has no rule under the key. -/
def shallowSchema : Schema :=
  .ofFields
    [.tag "validate" "nested|nested" (.withSchema
      (.ofFields
        [.tag "validate" "max:2" (.plain "n" .int),
         .withSchema (.ofFields [.tag "validate" "nested" (.plain "c" .record)])
           (.plain "b" .record)])
      (.plain "a" .record))]

/-- A value with more levels than the schema looks at. -/
def deepValue : Json :=
  .object [("a", .object [("n", .int 3), ("b", .object [("c", .object [])])])]

open scoped Pattern

/-- Two rounds of one event each, one level down; the levels below are never looked at. -/
theorem validation_bounded_by_schema_deepValue :
    shallowSchema.depth "validate" = 1 ∧ deepValue.levels = 4 ∧
      (Config.standard.validate (shallowSchema.bind "validate" deepValue)).log.length ≤ 13 ∧
      ∀ event ∈ (Config.standard.validate (shallowSchema.bind "validate" deepValue)).log,
        ∀ d ∈ event.depth?, d ≤ 1 ∧ d < 4 := by
  obtain ⟨-, hlength, hevents⟩ := validation_bounded_by_schema .standard shallowSchema deepValue
  refine ⟨rfl, rfl, hlength, ?_⟩
  intro event hevent d hd
  obtain ⟨hdepth, hlevels⟩ := hevents event hevent d hd
  exact ⟨hdepth, hlevels rfl⟩

end RecordRules
