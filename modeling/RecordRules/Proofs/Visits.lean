import RecordRules.Proofs.Walk

/-!
# The visits of a validation

A validation can be read off a flat list. `Record.visits` lists, in depth-first order, everything
that has an outcome of its own: a record that cannot be read, a leaf, a nested record whose rule
cannot be read, a clause of such a rule with a foreign operator. A clause with the one operator
lists the inner record again. Nothing in that list stops at an error; it is the whole record.

* `collect` is the first error of such a list, or all its violations in order;
* `Record.walk_result`: the result of a walk is what its visits collect;
* **`report_iff_visits`**: a validation ends with the first error among its visits, and without one
  it reports their violations in order; a check adds nothing but the verdict on an empty report.
-/

namespace RecordRules

/-! ## 1. Visits -/

/-- Something with an outcome of its own: either a record at a depth that cannot be read, or a
    field of a record at that depth. -/
structure Visit where
  /-- The depth of the record. -/
  depth : Nat
  /-- The field, unless it is the record itself that cannot be read. -/
  field? : Option Field
  /-- The violations, or the error. -/
  outcome : Except SetupError (List Violation)

/-- Whether a visit ends the validation. -/
def Visit.failed (v : Visit) : Bool :=
  match v.outcome with
  | .error _ => true
  | .ok _ => false

/-- The visits of a nested record, clause by clause. -/
def clauseVisits (depth : Nat) (field : Field) (inner : List Visit) (conditions : List Condition) :
    List Visit :=
  conditions.flatMap fun c =>
    if c.operator = nestedOperator then inner
    else [⟨depth, some field, .error (.unsupportedOperator field.name c.operator)⟩]

/-- The visits of a nested record, whose rule may be one that cannot be read. -/
def ruleVisits (depth : Nat) (field : Field) (inner : List Visit) : List Visit :=
  match Rule.parse field.rule with
  | .error error => [⟨depth, some field, .error error⟩]
  | .ok conditions => clauseVisits depth field inner conditions

section Visits

variable [PatternEngine]

mutual

/-- The visits of a record at a depth. -/
def Record.visits (config : Config) (depth : Nat) : Record → List Visit
  | .unreadable error => [⟨depth, none, .error error⟩]
  | .ofFields fields => fieldVisits config depth fields

/-- The visits of fields in order. -/
def fieldVisits (config : Config) (depth : Nat) : List Field → List Visit
  | [] => []
  | .mk name rule (.leaf v) :: fields =>
    ⟨depth, some (.mk name rule (.leaf v)), v.outcome config name rule⟩
      :: fieldVisits config depth fields
  | .mk name rule (.record inner) :: fields =>
    ruleVisits depth (.mk name rule (.record inner)) (inner.visits config (depth + 1))
      ++ fieldVisits config depth fields

end

end Visits

/-! ## 2. Collecting -/

/-- The first error, or the violations of all visits. -/
def collect : List Visit → Except SetupError (List Violation)
  | [] => .ok []
  | v :: visits => v.outcome.bind fun vs => (collect visits).map (vs ++ ·)

/-- The first visit that ends the validation. -/
def firstFailure? (visits : List Visit) : Option Visit := visits.find? Visit.failed

theorem collect_append (us vs : List Visit) :
    collect (us ++ vs) = (collect us).bind fun ws => (collect vs).map (ws ++ ·) := by
  induction us with
  | nil => cases h : collect vs <;> simp [collect, Except.bind, Except.map, h]
  | cons u us ih =>
      rw [List.cons_append, collect, collect, ih]
      -- a failure of `u`, then one of `us`, hides all that comes behind it
      cases u.outcome with
      | error e => rfl
      | ok ws =>
          cases collect us with
          | error e => rfl
          | ok xs => cases collect vs <;> simp [Except.bind, Except.map]

theorem collect_singleton (depth : Nat) (field? : Option Field)
    (outcome : Except SetupError (List Violation)) :
    collect [⟨depth, field?, outcome⟩] = outcome := by
  cases outcome <;> simp [collect, Except.bind, Except.map]

/-- **Collecting fails with the error of the first failure.** -/
theorem collect_eq_error {e : SetupError} : ∀ {visits : List Visit},
    collect visits = .error e ↔ ∃ v, firstFailure? visits = some v ∧ v.outcome = .error e
  | [] => by simp [collect, firstFailure?]
  | v :: visits => by
      unfold firstFailure? collect
      rw [List.find?_cons]
      cases h : v.outcome with
      | error d =>
          have hv : v.failed = true := by simp [Visit.failed, h]
          simp [hv, h, Except.bind]
      | ok vs =>
          have hv : v.failed = false := by simp [Visit.failed, h]
          have ih : collect visits = .error e ↔
              ∃ w, visits.find? Visit.failed = some w ∧ w.outcome = .error e := collect_eq_error
          rw [hv, ← ih]
          cases collect visits <;> simp [Except.bind, Except.map]

/-- **Collecting succeeds when every visit does**, with all their violations in order. -/
theorem collect_eq_ok {us : List Violation} : ∀ {visits : List Visit},
    collect visits = .ok us ↔
      ∃ parts : List (List Violation), visits.map Visit.outcome = parts.map .ok ∧ us = parts.flatten
  | [] => by
      constructor
      · intro h
        cases h
        exact ⟨[], rfl, rfl⟩
      · rintro ⟨parts, h, rfl⟩
        rw [List.map_nil, eq_comm, List.map_eq_nil_iff] at h
        rw [h]
        rfl
  | v :: visits => by
      unfold collect
      constructor
      · intro h
        cases hv : v.outcome with
        | error d => rw [hv] at h; cases h
        | ok vs =>
            cases hc : collect visits with
            | error d => rw [hv, hc] at h; cases h
            | ok ws =>
                rw [hv, hc] at h
                cases h
                obtain ⟨parts, hp, rfl⟩ := collect_eq_ok.mp hc
                exact ⟨vs :: parts, by rw [List.map_cons, hv, hp, List.map_cons], rfl⟩
      · rintro ⟨parts, h, rfl⟩
        cases parts with
        | nil => cases h
        | cons vs parts =>
            rw [List.map_cons, List.map_cons, List.cons.injEq] at h
            rw [h.1, collect_eq_ok.mpr ⟨parts, h.2, rfl⟩]
            rfl

/-! ## 3. The result of a walk -/

section Result

theorem Walk.perClause_result {depth : Nat} {field : Field} {inner : Walk} {visits : List Visit}
    (h : inner.result = collect visits) (conditions : List Condition) :
    (perClause field.name (depth + 1) inner conditions).result
      = collect (clauseVisits depth field visits conditions) := by
  induction conditions with
  | nil => rfl
  | cons c cs ih =>
      unfold clauseVisits at ih ⊢
      rw [List.flatMap_cons]
      by_cases hc : c.operator = nestedOperator
      · rw [perClause_cons_nested hc, if_pos hc, result_andThen, result_after, collect_append, h,
          ih]
      · rw [perClause_cons_other hc, if_neg hc]
        rfl

theorem Walk.perRule_result (depth : Nat) (field : Field) {inner : Walk} {visits : List Visit}
    (h : inner.result = collect visits) :
    (perRule field.name field.rule (depth + 1) inner).result
      = collect (ruleVisits depth field visits) := by
  unfold ruleVisits
  cases hp : Rule.parse field.rule with
  | error e =>
      rw [perRule_of_error hp]
      exact (collect_singleton depth (some field) (.error e)).symm
  | ok conditions =>
      rw [perRule_of_ok hp]
      exact perClause_result h conditions

variable [PatternEngine] (config : Config)

mutual

/-- **The result of a walk is what its visits collect.** -/
theorem Record.walk_result (depth : Nat) : ∀ record : Record,
    (record.walk config depth).result = collect (record.visits config depth)
  | .unreadable e => rfl
  | .ofFields fields => by
      rw [Record.walk_ofFields, Walk.result_ofRecord, Record.visits]
      exact walkFields_result depth fields

theorem walkFields_result (depth : Nat) : ∀ fields : List Field,
    (walkFields config depth fields).result = collect (fieldVisits config depth fields)
  | [] => rfl
  | .mk name rule (.leaf v) :: fields => by
      rw [walkFields_leaf, Walk.result_andThen, walkFields_result depth fields, fieldVisits,
        collect]
  | .mk name rule (.record inner) :: fields => by
      have ih := Walk.perRule_result depth (.mk name rule (.record inner))
        (Record.walk_result (depth + 1) inner)
      rw [walkFields_record, Walk.result_andThen, Walk.result_after, walkFields_result depth fields,
        fieldVisits, collect_append, ← ih]
      rfl

end

end Result

/-! ## 4. Whole validations -/

variable [PatternEngine]

section Check

variable {config : Config} {record : Record}

theorem check_of_error {e : SetupError} (h : config.report record = .error e) :
    config.check record = .error (.infrastructure e) := by
  unfold Config.check
  rw [h]

theorem check_of_empty (h : config.report record = .ok .empty) : config.check record = .ok () := by
  unfold Config.check
  rw [h]
  rfl

theorem check_of_violated {report : Report} (h : config.report record = .ok report)
    (hr : report ≠ .empty) : config.check record = .error (.rejected report) := by
  have hv : report.isValid = false := by
    rw [Bool.eq_false_iff]
    exact fun hv => hr (report.isValid_iff.mp hv)
  unfold Config.check Report.intoResult
  rw [h]
  simp only [hv]
  rfl

/-- A check sorts the outcomes of a validation into three. -/
theorem check_cases (config : Config) (record : Record) :
    (∃ e, config.report record = .error e ∧ config.check record = .error (.infrastructure e)) ∨
    (config.report record = .ok .empty ∧ config.check record = .ok ()) ∨
    (∃ report, config.report record = .ok report ∧ report ≠ .empty ∧
      config.check record = .error (.rejected report)) := by
  cases h : config.report record with
  | error e => exact Or.inl ⟨e, rfl, check_of_error h⟩
  | ok report =>
      by_cases hr : report = .empty
      · subst hr
        exact Or.inr (Or.inl ⟨rfl, check_of_empty h⟩)
      · exact Or.inr (Or.inr ⟨report, rfl, hr, check_of_violated h hr⟩)

theorem check_eq_ok : config.check record = .ok () ↔ config.report record = .ok .empty := by
  refine ⟨fun h => ?_, check_of_empty⟩
  rcases check_cases config record with ⟨d, -, hc⟩ | ⟨hr, -⟩ | ⟨r, -, -, hc⟩
  · rw [hc] at h; cases h
  · exact hr
  · rw [hc] at h; cases h

theorem check_eq_rejected {report : Report} :
    config.check record = .error (.rejected report) ↔
      config.report record = .ok report ∧ report ≠ .empty := by
  refine ⟨fun h => ?_, fun h => check_of_violated h.1 h.2⟩
  rcases check_cases config record with ⟨d, -, hc⟩ | ⟨-, hc⟩ | ⟨r, hr, hne, hc⟩
  · rw [hc] at h; cases h
  · rw [hc] at h; cases h
  · rw [hc] at h
    cases h
    exact ⟨hr, hne⟩

theorem check_eq_infrastructure {e : SetupError} :
    config.check record = .error (.infrastructure e) ↔ config.report record = .error e := by
  refine ⟨fun h => ?_, check_of_error⟩
  rcases check_cases config record with ⟨d, hr, hc⟩ | ⟨-, hc⟩ | ⟨r, -, -, hc⟩
  · rw [hc] at h
    cases h
    exact hr
  · rw [hc] at h; cases h
  · rw [hc] at h; cases h

end Check

/-- **A validation is read off its visits.** It ends with the first error among them; without one it
    reports all their violations in order. A check passes exactly with an empty report, is rejected
    with any other one, and hands on an error. -/
theorem report_iff_visits (config : Config) (record : Record) :
    (∀ e, config.report record = .error e ↔
      ∃ v, firstFailure? (record.visits config 0) = some v ∧ v.outcome = .error e) ∧
    (∀ report, config.report record = .ok report ↔
      ∃ parts : List (List Violation),
        (record.visits config 0).map Visit.outcome = parts.map .ok ∧
          report.violations = parts.flatten) ∧
    (config.check record = .ok () ↔ config.report record = .ok .empty) ∧
    (∀ report, config.check record = .error (.rejected report) ↔
      config.report record = .ok report ∧ report ≠ .empty) ∧
    (∀ e, config.check record = .error (.infrastructure e) ↔ config.report record = .error e) := by
  refine ⟨fun e => ?_, fun report => ?_, check_eq_ok, fun _ => check_eq_rejected,
    fun _ => check_eq_infrastructure⟩
  · rw [report_eq_error, Record.walk_result, collect_eq_error]
  · rw [report_eq_ok, Record.walk_result, collect_eq_ok]

end RecordRules
