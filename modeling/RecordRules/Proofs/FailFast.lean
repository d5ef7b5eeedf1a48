import Mathlib.Logic.ExistsUnique
import RecordRules.Pattern.Reader
import RecordRules.Proofs.Log.Shift
import RecordRules.Proofs.Visits

/-!
# Nothing is looked at behind an error

An error arises at a place: at a record that cannot be read, at a field of a record, or further
down in the record nested in a field. What a validation with an error does is settled by what lies
in front of that place and at it.

* `Place` names a place by positions, `Record.FailsAt` says of a record that its first error arises
  there, in terms of the parts of the record and not of the walk through it;
* `report_eq_error_iff_failsAt`: a validation ends with an error exactly when it arises somewhere,
  and `Record.FailsAt.unique`: it arises nowhere else;
* `Record.AgreesUpTo` relates records that may differ behind a place, on every level down to it, in
  everything but the number of fields.

**`agreesUpTo_fails_alike`** says that such records are validated with the same error and the same
events.
-/

namespace RecordRules

/-! ## 1. Where errors arise -/

/-- A place in a record, by positions of fields. -/
inductive Place where
  /-- The record itself. -/
  | record
  /-- The field at a position. -/
  | field (position : Nat)
  /-- A place in the record nested in the field at a position. -/
  | inside (position : Nat) (place : Place)
  deriving DecidableEq, Repr

section Failing

variable [PatternEngine] (config : Config)

/-- The record has a report. -/
def Record.Passes (r : Record) : Prop := ∃ report, config.report r = .ok report

/-- A field with an error that does not come out of a record nested in it. -/
inductive Field.FailsItself : Field → SetupError → Prop where
  /-- A leaf with an error. -/
  | leaf {name rule : String} {v : Leaf} {e : SetupError}
      (h : v.outcome config name rule = .error e) : Field.FailsItself (.mk name rule (.leaf v)) e
  /-- A nested record whose rule cannot be read. -/
  | unreadableRule {name rule : String} {inner : Record} {e : SetupError}
      (h : Rule.parse rule = .error e) : Field.FailsItself (.mk name rule (.record inner)) e
  /-- A nested record with a foreign operator in its rule, behind any number of rounds through a
      record that has a report. -/
  | foreignOperator {name rule : String} {inner : Record} {front back : List Condition}
      {c : Condition} (hrule : Rule.parse rule = .ok (front ++ c :: back))
      (hfront : ∀ d ∈ front, d.operator = nestedOperator) (hc : c.operator ≠ nestedOperator)
      (hinner : front ≠ [] → inner.Passes config) :
      Field.FailsItself (.mk name rule (.record inner)) (.unsupportedOperator name c.operator)

/-- The first error of a record arises at a place. -/
inductive Record.FailsAt : Record → Place → SetupError → Prop where
  /-- The record cannot be read. -/
  | record (e : SetupError) : Record.FailsAt (.unreadable e) .record e
  /-- A field fails by itself, and those in front of it pass. -/
  | field {front back : List Field} {field : Field} {e : SetupError}
      (hfront : (Record.ofFields front).Passes config) (h : field.FailsItself config e) :
      Record.FailsAt (.ofFields (front ++ field :: back)) (.field front.length) e
  /-- The record nested in a field fails. The first clause of the field's rule leads there, and the
      fields in front of it pass. -/
  | inside {front back : List Field} {name rule : String} {inner : Record} {c : Condition}
      {conditions : List Condition} {place : Place} {e : SetupError}
      (hfront : (Record.ofFields front).Passes config)
      (hrule : Rule.parse rule = .ok (c :: conditions)) (hc : c.operator = nestedOperator)
      (h : Record.FailsAt inner place e) :
      Record.FailsAt (.ofFields (front ++ .mk name rule (.record inner) :: back))
        (.inside front.length place) e

end Failing

/-- Two records that agree up to a place and at it. Behind it, and behind every field on the way to
    it, they have as many fields, which may be any. -/
inductive Record.AgreesUpTo : Place → Record → Record → Prop where
  /-- The same record. -/
  | record (r : Record) : Record.AgreesUpTo .record r r
  /-- The same fields up to a position. -/
  | field (front : List Field) (field : Field) {back back' : List Field}
      (hlen : back.length = back'.length) :
      Record.AgreesUpTo (.field front.length) (.ofFields (front ++ field :: back))
        (.ofFields (front ++ field :: back'))
  /-- The same fields in front of a position, and there two nested records that agree up to a
      place. -/
  | inside (front : List Field) (name rule : String) {inner inner' : Record}
      {back back' : List Field} {place : Place} (h : Record.AgreesUpTo place inner inner')
      (hlen : back.length = back'.length) :
      Record.AgreesUpTo (.inside front.length place)
        (.ofFields (front ++ .mk name rule (.record inner) :: back))
        (.ofFields (front ++ .mk name rule (.record inner') :: back'))

namespace Record.AgreesUpTo

variable {front back : List Field} {s : Record}

/-- A record that agrees with another one up to a field and at it. -/
theorem eq_of_field {field : Field}
    (h : Record.AgreesUpTo (.field front.length) (.ofFields (front ++ field :: back)) s) :
    ∃ back', back.length = back'.length ∧ s = .ofFields (front ++ field :: back') := by
  generalize hr : Record.ofFields (front ++ field :: back) = r at h
  generalize hp : Place.field front.length = place at h
  cases h with
  | record | inside => cases hp
  | field front' field' hlen =>
      rw [Record.ofFields.injEq] at hr
      obtain ⟨rfl, hback⟩ := List.append_inj hr (Place.field.inj hp)
      cases hback
      exact ⟨_, hlen, rfl⟩

/-- A record that agrees with another one up to a place in a nested record. -/
theorem eq_of_inside {name rule : String} {inner : Record} {place : Place}
    (h : Record.AgreesUpTo (.inside front.length place)
      (.ofFields (front ++ .mk name rule (.record inner) :: back)) s) :
    ∃ inner' back', inner.AgreesUpTo place inner' ∧ back.length = back'.length ∧
      s = .ofFields (front ++ .mk name rule (.record inner') :: back') := by
  generalize hr : Record.ofFields (front ++ .mk name rule (.record inner) :: back) = r at h
  generalize hp : Place.inside front.length place = p at h
  cases h with
  | record | field => cases hp
  | inside front' name' rule' hin hlen =>
      rw [Record.ofFields.injEq] at hr
      rw [Place.inside.injEq] at hp
      obtain ⟨hpos, rfl⟩ := hp
      obtain ⟨rfl, hback⟩ := List.append_inj hr hpos
      cases hback
      exact ⟨_, _, hin, hlen, rfl⟩

end Record.AgreesUpTo

/-! ## 2. An error stops the walk at its place -/

section Walks

variable [PatternEngine] {config : Config}

/-- Whether a record passes can be seen at any depth. -/
theorem Record.passes_iff (depth : Nat) {r : Record} :
    r.Passes config ↔ ∃ vs, (r.walk config depth).result = .ok vs := by
  constructor
  · rintro ⟨report, h⟩
    exact ⟨report.violations, (report_eq_ok_at depth).mp h⟩
  · rintro ⟨vs, h⟩
    exact ⟨⟨vs⟩, (report_eq_ok_at depth).mpr h⟩

theorem Record.not_passes_of_error {r : Record} {e : SetupError}
    (h : (r.walk config 0).result = .error e) : ¬ r.Passes config := by
  intro hpass
  obtain ⟨vs, hvs⟩ := (Record.passes_iff 0).mp hpass
  rw [h] at hvs
  cases hvs

theorem passes_fields_iff (depth : Nat) {fields : List Field} :
    (Record.ofFields fields).Passes config ↔
      ∃ vs, (walkFields config depth fields).result = .ok vs := by
  rw [Record.passes_iff depth, Record.walk_ofFields, Walk.result_ofRecord]

/-- **Nothing is looked at behind a field that fails**: the fields behind it are not in the
    result. -/
theorem walkFields_of_failing (depth : Nat) {front back : List Field} {field : Field}
    {e : SetupError} (hfront : (Record.ofFields front).Passes config)
    (h : (field.walk config depth).result = .error e) :
    walkFields config depth (front ++ field :: back)
      = ⟨(walkFields config depth front).log ++ (field.walk config depth).log, .error e⟩ := by
  obtain ⟨vs, hvs⟩ := (passes_fields_iff depth).mp hfront
  rw [walkFields_append, Walk.andThen_of_ok hvs, walkFields_cons, Walk.andThen_of_error h]
  rfl

theorem Record.result_of_failing (depth : Nat) {front back : List Field} {field : Field}
    {e : SetupError} (hfront : (Record.ofFields front).Passes config)
    (h : (field.walk config depth).result = .error e) :
    ((Record.ofFields (front ++ field :: back)).walk config depth).result = .error e := by
  rw [Record.walk_ofFields, Walk.result_ofRecord, walkFields_of_failing depth hfront h]

/-- What stands behind a field that fails is only counted. -/
theorem Record.walk_of_failing (depth : Nat) {front back back' : List Field} {field field' : Field}
    {e : SetupError} (hfront : (Record.ofFields front).Passes config)
    (h : (field.walk config depth).result = .error e)
    (hfield : field'.walk config depth = field.walk config depth)
    (hlen : back.length = back'.length) :
    (Record.ofFields (front ++ field' :: back')).walk config depth
      = (Record.ofFields (front ++ field :: back)).walk config depth := by
  have hcount : (front ++ field' :: back').length = (front ++ field :: back).length := by
    rw [List.length_append, List.length_append, List.length_cons, List.length_cons, hlen]
  rw [Record.walk_ofFields, Record.walk_ofFields, walkFields_of_failing depth hfront h,
    walkFields_of_failing depth hfront (hfield ▸ h), hcount, hfield]

theorem Field.FailsItself.result_walk (depth : Nat) {field : Field} {e : SetupError}
    (h : field.FailsItself config e) : (field.walk config depth).result = .error e := by
  cases h with
  | leaf h => exact h
  | unreadableRule h => rw [Field.walk_record, Walk.perRule_of_error h]; rfl
  | @foreignOperator name rule inner front back c hrule hfront hc hinner =>
      rw [Field.walk_record, Walk.perRule_of_ok hrule, Walk.result_after]
      exact Walk.perClause_foreign hfront hc fun hne =>
        (Record.passes_iff (depth + 1)).mp (hinner hne)

/-- A nested record that fails makes its field fail, when the first clause leads to it. -/
theorem Field.result_walk_of_inner (depth : Nat) {name rule : String} {inner : Record}
    {c : Condition} {conditions : List Condition} {e : SetupError}
    (hrule : Rule.parse rule = .ok (c :: conditions)) (hc : c.operator = nestedOperator)
    (h : (inner.walk config (depth + 1)).result = .error e) :
    ((Field.mk name rule (.record inner)).walk config depth).result = .error e := by
  rw [Field.walk_record, Walk.perRule_of_ok hrule, Walk.perClause_cons_nested hc,
    Walk.andThen_of_error ((Walk.result_after _ _).trans h)]
  rfl

/-- **A record that fails at a place is walked through with that error.** -/
theorem Record.FailsAt.result_walk {r : Record} {place : Place} {e : SetupError}
    (h : r.FailsAt config place e) : ∀ depth, (r.walk config depth).result = .error e := by
  induction h with
  | record e => exact fun _ => rfl
  | field hfront h => exact fun depth => result_of_failing depth hfront (h.result_walk depth)
  | inside hfront hrule hc _ ih =>
      exact fun depth => result_of_failing depth hfront
        (Field.result_walk_of_inner depth hrule hc (ih (depth + 1)))

/-- **Records that agree up to a place where one of them fails are walked through alike.** -/
theorem Record.FailsAt.walk_eq {r : Record} {place : Place} {e : SetupError}
    (h : r.FailsAt config place e) : ∀ {s : Record}, r.AgreesUpTo place s → ∀ depth,
      s.walk config depth = r.walk config depth := by
  induction h with
  | record e =>
      intro s hs depth
      cases hs
      rfl
  | field hfront h =>
      intro s hs depth
      obtain ⟨back', hlen, rfl⟩ := hs.eq_of_field
      exact walk_of_failing depth hfront (h.result_walk depth) rfl hlen
  | @inside front back name rule inner c conditions place e hfront hrule hc h ih =>
      intro s hs depth
      obtain ⟨inner', back', hin, hlen, rfl⟩ := hs.eq_of_inside
      have hfield : (Field.mk name rule (.record inner')).walk config depth
          = (Field.mk name rule (.record inner)).walk config depth := by
        rw [Field.walk_record, Field.walk_record, ih hin (depth + 1)]
      have hfail : ((Field.mk name rule (.record inner)).walk config depth).result = .error e :=
        Field.result_walk_of_inner depth hrule hc (h.result_walk (depth + 1))
      exact walk_of_failing depth hfront hfail hfield hlen

/-! ## 3. Errors arise at one place -/

theorem Record.not_passes_of_failing {front back : List Field} {field : Field} {e : SetupError}
    (hfront : (Record.ofFields front).Passes config)
    (h : (field.walk config 0).result = .error e) :
    ¬ (Record.ofFields (front ++ field :: back)).Passes config :=
  Record.not_passes_of_error (Record.result_of_failing 0 hfront h)

/-- Two fields of the same list that fail behind fields that pass are the same field: neither stands
    in front of the other. -/
theorem eq_of_failing {front back front' back' : List Field} {field field' : Field}
    {e e' : SetupError} (hfront : (Record.ofFields front).Passes config)
    (h : (field.walk config 0).result = .error e)
    (hfront' : (Record.ofFields front').Passes config)
    (h' : (field'.walk config 0).result = .error e')
    (heq : front ++ field :: back = front' ++ field' :: back') :
    front = front' ∧ field = field' := by
  rcases List.append_eq_append_iff.mp heq with ⟨as, rfl, hrest⟩ | ⟨as, rfl, hrest⟩
  · cases as with
    | nil =>
        cases hrest
        exact ⟨(List.append_nil front).symm, rfl⟩
    | cons a as =>
        -- the first of the two stands among those in front of the second, which pass
        cases hrest
        exact absurd hfront' (Record.not_passes_of_failing hfront h)
  · cases as with
    | nil =>
        cases hrest
        exact ⟨List.append_nil front', rfl⟩
    | cons a as =>
        cases hrest
        exact absurd hfront (Record.not_passes_of_failing hfront' h')

theorem Record.FailsAt.not_passes {r : Record} {place : Place} {e : SetupError}
    (h : r.FailsAt config place e) : ¬ r.Passes config :=
  Record.not_passes_of_error (h.result_walk 0)

/-- A field does not fail by itself when the record nested in it fails first. -/
theorem Field.FailsItself.not_of_inner {name rule : String} {inner : Record} {c : Condition}
    {conditions : List Condition} {place : Place} {d e : SetupError}
    (hrule : Rule.parse rule = .ok (c :: conditions)) (hc : c.operator = nestedOperator)
    (hinner : inner.FailsAt config place d) :
    ¬ (Field.mk name rule (.record inner)).FailsItself config e := by
  intro h
  cases h with
  | unreadableRule hrule' =>
      rw [hrule] at hrule'
      cases hrule'
  | @foreignOperator _ _ _ front back c' hrule' hfront hc' hpass =>
      cases front with
      | nil =>
          rw [hrule] at hrule'
          cases hrule'
          exact hc' hc
      | cons => exact hinner.not_passes (hpass (List.cons_ne_nil _ _))

/-- **An error arises at one place only.** -/
theorem Record.FailsAt.unique {r : Record} {place : Place} {e : SetupError}
    (h : r.FailsAt config place e) : ∀ {place' : Place} {e' : SetupError},
      r.FailsAt config place' e' → place = place' := by
  induction h with
  | record e =>
      intro place' e' h'
      cases h'
      rfl
  | @field front back field e hfront h =>
      intro place' e' h'
      generalize hr : Record.ofFields (front ++ field :: back) = r at h'
      cases h' with
      | record => cases hr
      | field hfront' h' =>
          obtain ⟨rfl, -⟩ := eq_of_failing hfront (h.result_walk 0) hfront' (h'.result_walk 0)
            (Record.ofFields.inj hr)
          rfl
      | inside hfront' hrule hc h' =>
          obtain ⟨-, rfl⟩ := eq_of_failing hfront (h.result_walk 0) hfront'
            (Field.result_walk_of_inner 0 hrule hc (h'.result_walk 1)) (Record.ofFields.inj hr)
          exact absurd h (Field.FailsItself.not_of_inner hrule hc h')
  | @inside front back name rule inner c conditions place e hfront hrule hc h ih =>
      intro place' e' h'
      generalize hr : Record.ofFields (front ++ .mk name rule (.record inner) :: back) = r at h'
      have hfield : ((Field.mk name rule (.record inner)).walk config 0).result = .error e :=
        Field.result_walk_of_inner 0 hrule hc (h.result_walk 1)
      cases h' with
      | record => cases hr
      | field hfront' h' =>
          obtain ⟨-, rfl⟩ := eq_of_failing hfront hfield hfront' (h'.result_walk 0)
            (Record.ofFields.inj hr)
          exact absurd h' (Field.FailsItself.not_of_inner hrule hc h)
      | inside hfront' hrule' hc' h' =>
          obtain ⟨rfl, hsame⟩ := eq_of_failing hfront hfield hfront'
            (Field.result_walk_of_inner 0 hrule' hc' (h'.result_walk 1)) (Record.ofFields.inj hr)
          cases hsame
          rw [ih h']

/-! ## 4. Every error arises somewhere -/

theorem passes_nil : (Record.ofFields []).Passes config := ⟨.empty, rfl⟩

theorem Record.Passes.cons {field : Field} {fields : List Field} {vs : List Violation}
    (hs : (Record.ofFields fields).Passes config) (h : (field.walk config 0).result = .ok vs) :
    (Record.ofFields (field :: fields)).Passes config := by
  obtain ⟨ws, hws⟩ := (passes_fields_iff 0).mp hs
  refine (passes_fields_iff 0).mpr ⟨vs ++ ws, ?_⟩
  rw [walkFields_cons, Walk.andThen_of_ok h, hws]
  rfl

/-- A field that passes may be put in front of an error. -/
theorem Record.FailsAt.cons {field : Field} {fields : List Field} {place : Place} {e : SetupError}
    {vs : List Violation} (hpass : (field.walk config 0).result = .ok vs)
    (h : (Record.ofFields fields).FailsAt config place e) :
    ∃ place', (Record.ofFields (field :: fields)).FailsAt config place' e := by
  cases h with
  | @field front back failing _ hfront h =>
      exact ⟨_, @Record.FailsAt.field _ config (field :: front) back failing e
        (hfront.cons hpass) h⟩
  | @inside front back name rule inner c conditions place _ hfront hrule hc h =>
      exact ⟨_, @Record.FailsAt.inside _ config (field :: front) back name rule inner c conditions
        place e (hfront.cons hpass) hrule hc h⟩

theorem Field.FailsItself.failsAt {field : Field} {e : SetupError}
    (h : field.FailsItself config e) (fields : List Field) :
    ∃ place, (Record.ofFields (field :: fields)).FailsAt config place e :=
  ⟨_, @Record.FailsAt.field _ config [] fields field e passes_nil h⟩

/-- A nested record that fails gives its field an error of its own, or one out of the first
    round. -/
theorem Field.failsItself_or_inner {name rule : String} {inner : Record} {e : SetupError}
    (h : ((Field.mk name rule (.record inner)).walk config 0).result = .error e) :
    (Field.mk name rule (.record inner)).FailsItself config e ∨
      ∃ c conditions, Rule.parse rule = .ok (c :: conditions) ∧ c.operator = nestedOperator ∧
        (inner.walk config 1).result = .error e := by
  rw [Field.walk_record, Walk.result_after] at h
  cases hrule : Rule.parse rule with
  | error d =>
      rw [Walk.perRule_of_error hrule] at h
      cases h
      exact Or.inl (.unreadableRule hrule)
  | ok conditions =>
      rw [Walk.perRule_of_ok hrule] at h
      rcases Walk.perClause_eq_error h with
        ⟨c, cs, rfl, hc, hin⟩ | ⟨front, c, back, rfl, hfront, hc, hin, rfl⟩
      · exact Or.inr ⟨c, cs, rfl, hc, hin⟩
      · exact Or.inl (.foreignOperator hrule hfront hc fun hne =>
          (Record.passes_iff 1).mpr (hin hne))

mutual

/-- **A record with an error fails somewhere.** -/
theorem Record.exists_failsAt : ∀ {record : Record} {e : SetupError},
    (record.walk config 0).result = .error e → ∃ place, record.FailsAt config place e
  | .unreadable e, _, h => by
      cases h
      exact ⟨.record, .record e⟩
  | .ofFields fields, e, h => by
      rw [Record.walk_ofFields, Walk.result_ofRecord] at h
      exact fields_exists_failsAt h

theorem fields_exists_failsAt : ∀ {fields : List Field} {e : SetupError},
    (walkFields config 0 fields).result = .error e →
      ∃ place, (Record.ofFields fields).FailsAt config place e
  | [], _, h => by cases h
  | field :: fields, e, h => by
      rw [walkFields_cons] at h
      cases hfield : (field.walk config 0).result with
      | error d =>
          rw [Walk.andThen_of_error hfield] at h
          cases h
          exact Field.exists_failsAt fields hfield
      | ok vs =>
          obtain ⟨place, hplace⟩ :=
            fields_exists_failsAt (Walk.result_eq_error_of_andThen hfield h)
          exact hplace.cons hfield

theorem Field.exists_failsAt (back : List Field) : ∀ {field : Field} {e : SetupError},
    (field.walk config 0).result = .error e →
      ∃ place, (Record.ofFields (field :: back)).FailsAt config place e
  | .mk _ _ (.leaf _), _, h => (Field.FailsItself.leaf h).failsAt back
  | .mk name rule (.record inner), e, h => by
      rcases Field.failsItself_or_inner h with hself | ⟨c, conditions, hrule, hc, hin⟩
      · exact hself.failsAt back
      · -- the inner walk is one level down, where its result is the same
        obtain ⟨place, hplace⟩ := Record.exists_failsAt
          ((report_eq_error_at 0).mp ((report_eq_error_at 1).mpr hin))
        exact ⟨_, @Record.FailsAt.inside _ config [] back name rule inner c conditions place e
          passes_nil hrule hc hplace⟩

end

/-- **A validation ends with an error exactly when it arises somewhere.** -/
theorem report_eq_error_iff_failsAt {record : Record} {e : SetupError} :
    config.report record = .error e ↔ ∃ place, record.FailsAt config place e := by
  rw [report_eq_error]
  refine ⟨Record.exists_failsAt, ?_⟩
  rintro ⟨place, h⟩
  exact h.result_walk 0

/-- **Nothing is looked at behind an error.** The error of a validation arises at one place, and a
    record that agrees with the given one up to this place has the same error and the same events.
    The error is the whole result: every record in which it arises ends with it, whatever is
    collected in front of it, and a check reports it and no violation. -/
theorem agreesUpTo_fails_alike {r : Record} {e : SetupError} (h : config.report r = .error e) :
    (∃! place, r.FailsAt config place e) ∧
    (∀ place s, r.FailsAt config place e → r.AgreesUpTo place s →
      config.report s = .error e ∧ (config.validate s).log = (config.validate r).log) ∧
    (∀ place s, s.FailsAt config place e →
      config.report s = .error e ∧ config.check s = .error (.infrastructure e)) := by
  refine ⟨?_, fun place s hr hs => ?_, fun place s hs => ?_⟩
  · obtain ⟨place, hplace⟩ := report_eq_error_iff_failsAt.mp h
    exact ⟨place, hplace, fun place' hplace' => hplace'.unique hplace⟩
  · have hwalk : s.walk config 0 = r.walk config 0 := hr.walk_eq hs 0
    have hvalidate : config.validate s = config.validate r := by
      unfold Config.validate
      rw [hwalk]
    refine ⟨?_, congrArg Walk.log hvalidate⟩
    rw [report_eq_error, hwalk]
    exact report_eq_error.mp h
  · have hreport : config.report s = .error e := report_eq_error_iff_failsAt.mpr ⟨place, hs⟩
    exact ⟨hreport, check_of_error hreport⟩

end Walks

/-- A mismatch in a nested record behind violations on both levels, with a field behind it on
    either level. -/
def mismatchInside (innerBack back : Field) : Record :=
  .ofFields
    [.mk "a" "min:5" (.leaf (.int 3)),
     .mk "b" "nested|nested" (.record (.ofFields
      [.mk "c" "len:2" (.leaf (.str "abc")),
       .mk "d" "len:2" (.leaf (.mismatch .string "int")),
       innerBack])),
     back]

/-- Valid values behind the mismatch. -/
def mismatchThenValid : Record :=
  mismatchInside (.mk "x" "len:1" (.leaf (.str "x"))) (.mk "y" "min:1" (.leaf (.int 1)))

/-- Broken rules and broken values behind the mismatch. -/
def mismatchThenBroken : Record :=
  mismatchInside (.mk "z" "a:b:c" (.record (.unreadable (.notARecord "null"))))
    (.mk "w" "len:x" (.leaf (.other "bool")))

open scoped Pattern

/-- What stands behind the mismatch is not seen, and neither are the violations in front of it. -/
theorem agreesUpTo_fails_alike_mismatchInside :
    Config.standard.report mismatchThenValid = .error (.valueMismatch "d" .string "int") ∧
      mismatchThenValid.FailsAt .standard (.inside 1 (.field 1))
        (.valueMismatch "d" .string "int") ∧
      mismatchThenValid.AgreesUpTo (.inside 1 (.field 1)) mismatchThenBroken ∧
      Config.standard.report mismatchThenBroken = .error (.valueMismatch "d" .string "int") ∧
      (Config.standard.validate mismatchThenBroken).log
        = (Config.standard.validate mismatchThenValid).log ∧
      Config.standard.check mismatchThenValid
        = .error (.infrastructure (.valueMismatch "d" .string "int")) := by
  have h : Config.standard.report mismatchThenValid = .error (.valueMismatch "d" .string "int") :=
    rfl
  have hinner : Record.FailsAt .standard _ (.field 1) (.valueMismatch "d" .string "int") :=
    @Record.FailsAt.field _ .standard [.mk "c" "len:2" (.leaf (.str "abc"))]
      [.mk "x" "len:1" (.leaf (.str "x"))] (.mk "d" "len:2" (.leaf (.mismatch .string "int"))) _
      ⟨⟨[⟨"c", .strLen⟩]⟩, rfl⟩ (.leaf rfl)
  have hplace : mismatchThenValid.FailsAt .standard (.inside 1 (.field 1))
      (.valueMismatch "d" .string "int") :=
    @Record.FailsAt.inside _ .standard [.mk "a" "min:5" (.leaf (.int 3))]
      [.mk "y" "min:1" (.leaf (.int 1))] "b" "nested|nested" _ ⟨"nested", ""⟩ [⟨"nested", ""⟩] _ _
      ⟨⟨[⟨"a", .intMin⟩]⟩, rfl⟩ rfl rfl hinner
  have hagree : mismatchThenValid.AgreesUpTo (.inside 1 (.field 1)) mismatchThenBroken :=
    .inside [.mk "a" "min:5" (.leaf (.int 3))] "b" "nested|nested"
      (.field [.mk "c" "len:2" (.leaf (.str "abc"))]
        (.mk "d" "len:2" (.leaf (.mismatch .string "int"))) rfl) rfl
  obtain ⟨-, halike, hfails⟩ := agreesUpTo_fails_alike h
  obtain ⟨hreport, hlog⟩ := halike _ mismatchThenBroken hplace hagree
  exact ⟨h, hplace, hagree, hreport, hlog, (hfails _ mismatchThenValid hplace).2⟩

end RecordRules
