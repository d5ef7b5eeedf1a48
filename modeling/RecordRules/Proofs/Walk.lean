import RecordRules.Validate

/-!
# Walks, piece by piece

What later proofs know of a walk is said here once, so that none of them opens `Walk.andThen`,
`Walk.perClause` or `Walk.ofRecord` again:

* two walks in a row succeed when both do (`andThen_eq_ok`), and otherwise stop where the first
  failure is (`andThen_of_error`, `andThen_of_ok`);
* a nested record whose clauses all carry the one operator is the inner walk over and over
  (`perClause_repeats`), and under no other rule does it ever succeed (`perRule_eq_ok`); where it
  stops says `perClause_eq_error`;
* a walk through fields goes field by field, in one equation per form of a value
  (`walkFields_leaf`, `walkFields_record`); what a successful one has behind it say
  `walkFields_leaf_eq_ok` and `walkFields_record_eq_ok`;
* a whole validation adds its first and last event and changes no result (`report_eq`);
* a record with one field is walked through as that field is (`Record.walk_single`).
-/

namespace RecordRules

namespace Walk

variable {w v inner : Walk} {field : String} {depth : Nat}

/-! ## 1. Two walks in a row -/

@[simp] theorem log_done : done.log = [] := rfl

@[simp] theorem result_done : done.result = .ok [] := rfl

@[simp] theorem log_fail (e : SetupError) : (fail e).log = [] := rfl

@[simp] theorem result_fail (e : SetupError) : (fail e).result = .error e := rfl

@[simp] theorem log_after (event : Event) (w : Walk) : (w.after event).log = event :: w.log := rfl

@[simp] theorem result_after (event : Event) (w : Walk) : (w.after event).result = w.result := rfl

/-- After a failure nothing more happens. -/
theorem andThen_of_error {e : SetupError} (h : w.result = .error e) (v : Walk) :
    w.andThen v = ⟨w.log, .error e⟩ := by
  unfold andThen
  rw [h]

/-- After a success the second walk happens in full. -/
theorem andThen_of_ok {vs : List Violation} (h : w.result = .ok vs) (v : Walk) :
    w.andThen v = ⟨w.log ++ v.log, v.result.map (vs ++ ·)⟩ := by
  unfold andThen
  rw [h]

/-- The result of two walks in a row, without their logs. -/
theorem result_andThen (w v : Walk) :
    (w.andThen v).result = w.result.bind fun vs => v.result.map (vs ++ ·) := by
  cases h : w.result with
  | error e => rw [andThen_of_error h]; rfl
  | ok vs => rw [andThen_of_ok h]; rfl

/-- **Two walks in a row succeed only when both do**, and then everything adds up. -/
theorem andThen_eq_ok {us : List Violation} (h : (w.andThen v).result = .ok us) :
    ∃ vs ws, w.result = .ok vs ∧ v.result = .ok ws ∧ us = vs ++ ws ∧
      (w.andThen v).log = w.log ++ v.log := by
  cases hw : w.result with
  | error e => rw [andThen_of_error hw] at h; cases h
  | ok vs =>
      rw [andThen_of_ok hw] at h ⊢
      cases hv : v.result with
      | error e => rw [hv] at h; cases h
      | ok ws =>
          rw [hv] at h
          cases h
          exact ⟨vs, ws, rfl, rfl, rfl, rfl⟩

/-- When the first of two walks succeeds, an error is one of the second. -/
theorem result_eq_error_of_andThen {vs : List Violation} {e : SetupError}
    (hw : w.result = .ok vs) (h : (w.andThen v).result = .error e) : v.result = .error e := by
  rw [andThen_of_ok hw] at h
  cases hv : v.result with
  | error d => rw [hv] at h; exact h
  | ok ws => rw [hv] at h; cases h

/-- Walks in a row need no brackets. -/
theorem andThen_assoc (u w v : Walk) : (u.andThen w).andThen v = u.andThen (w.andThen v) := by
  cases hu : u.result with
  | error e => rw [andThen_of_error hu, andThen_of_error hu, andThen_of_error rfl]
  | ok vs =>
      rw [andThen_of_ok hu, andThen_of_ok hu]
      cases hw : w.result with
      | error e => rw [andThen_of_error hw, andThen_of_error rfl]; rfl
      | ok ws =>
          rw [andThen_of_ok hw, andThen_of_ok rfl]
          cases v.result <;> simp [Except.map]

/-- A walk behind nothing. -/
theorem done_andThen (w : Walk) : done.andThen w = w := by
  rw [andThen_of_ok result_done]
  cases h : w.result <;> simp [Except.map, ← h]

/-- A walk with nothing behind it. -/
theorem andThen_done (w : Walk) : w.andThen done = w := by
  cases h : w.result with
  | error e => rw [andThen_of_error h, ← h]
  | ok vs =>
      rw [andThen_of_ok h, log_done, result_done, List.append_nil]
      simp [Except.map, ← h]

/-! ## 2. Clauses -/

@[simp] theorem perClause_nil : perClause field depth inner [] = done := rfl

theorem perClause_cons_nested {c : Condition} (h : c.operator = nestedOperator)
    (cs : List Condition) :
    perClause field depth inner (c :: cs)
      = (inner.after (.descending field depth)).andThen (perClause field depth inner cs) :=
  if_pos h

theorem perClause_cons_other {c : Condition} (h : c.operator ≠ nestedOperator)
    (cs : List Condition) :
    perClause field depth inner (c :: cs) = fail (.unsupportedOperator field c.operator) :=
  if_neg h

/-- **A nested record is the inner walk over and over**, once for every clause. -/
theorem perClause_repeats {vs : List Violation} (hin : inner.result = .ok vs) :
    ∀ {cs : List Condition}, (∀ c ∈ cs, c.operator = nestedOperator) →
      perClause field depth inner cs
        = ⟨(List.replicate cs.length (.descending field depth :: inner.log)).flatten,
          .ok (List.replicate cs.length vs).flatten⟩
  | [], _ => rfl
  | c :: cs, hcs => by
      have hc : c.operator = nestedOperator := hcs c List.mem_cons_self
      have ih := perClause_repeats hin fun d hd => hcs d (List.mem_cons_of_mem c hd)
      rw [perClause_cons_nested hc, andThen_of_ok ((result_after _ _).trans hin), ih]
      rfl

/-- A nested record succeeds only when every clause carries the one operator and, as soon as
    there is a clause, the inner walk succeeds. -/
theorem perClause_eq_ok : ∀ {cs : List Condition} {us : List Violation},
    (perClause field depth inner cs).result = .ok us →
      (∀ c ∈ cs, c.operator = nestedOperator) ∧ (cs ≠ [] → ∃ vs, inner.result = .ok vs)
  | [], _, _ => ⟨fun c hc => absurd hc List.not_mem_nil, fun h => absurd rfl h⟩
  | c :: cs, us, h => by
      by_cases hc : c.operator = nestedOperator
      · rw [perClause_cons_nested hc] at h
        obtain ⟨vs, ws, hin, hcs, -, -⟩ := andThen_eq_ok h
        refine ⟨fun d hd => ?_, fun _ => ⟨vs, hin⟩⟩
        rcases List.mem_cons.mp hd with rfl | hd
        · exact hc
        · exact (perClause_eq_ok hcs).1 d hd
      · rw [perClause_cons_other hc] at h
        cases h

/-- A nested record that fails does so in its first round, or at the first clause with a foreign
    operator when the rounds in front of it have succeeded. -/
theorem perClause_eq_error {e : SetupError} : ∀ {cs : List Condition},
    (perClause field depth inner cs).result = .error e →
      (∃ c ds, cs = c :: ds ∧ c.operator = nestedOperator ∧ inner.result = .error e) ∨
      (∃ front c back, cs = front ++ c :: back ∧ (∀ d ∈ front, d.operator = nestedOperator) ∧
        c.operator ≠ nestedOperator ∧ (front ≠ [] → ∃ vs, inner.result = .ok vs) ∧
        e = .unsupportedOperator field c.operator)
  | [], h => by cases h
  | c :: cs, h => by
      by_cases hc : c.operator = nestedOperator
      · rw [perClause_cons_nested hc] at h
        cases hin : inner.result with
        | error d =>
            rw [andThen_of_error ((result_after _ _).trans hin)] at h
            cases h
            exact Or.inl ⟨c, cs, rfl, hc, rfl⟩
        | ok vs =>
            have hcs := result_eq_error_of_andThen ((result_after _ _).trans hin) h
            -- the rounds behind this one cannot fail in the inner walk, which has just succeeded
            rcases perClause_eq_error hcs with
              ⟨_, _, -, -, he⟩ | ⟨front, d, back, rfl, hf, hd, -, he⟩
            · rw [hin] at he
              cases he
            · exact Or.inr ⟨c :: front, d, back, rfl, List.forall_mem_cons.mpr ⟨hc, hf⟩, hd,
                fun _ => ⟨vs, rfl⟩, he⟩
      · rw [perClause_cons_other hc] at h
        cases h
        exact Or.inr ⟨[], c, cs, rfl, fun d hd => absurd hd List.not_mem_nil, hc,
          fun hne => absurd rfl hne, rfl⟩

/-- Clauses with the one operator in front of a foreign one, when the inner walk succeeds as soon
    as there are any. -/
theorem perClause_foreign {front back : List Condition} {c : Condition}
    (hfront : ∀ d ∈ front, d.operator = nestedOperator) (hc : c.operator ≠ nestedOperator)
    (hin : front ≠ [] → ∃ vs, inner.result = .ok vs) :
    (perClause field depth inner (front ++ c :: back)).result
      = .error (.unsupportedOperator field c.operator) := by
  induction front with
  | nil => rw [List.nil_append, perClause_cons_other hc, result_fail]
  | cons d front ih =>
      obtain ⟨vs, hvs⟩ := hin (List.cons_ne_nil d front)
      have hrest := ih (fun b hb => hfront b (List.mem_cons_of_mem d hb)) fun _ => ⟨vs, hvs⟩
      rw [List.cons_append, perClause_cons_nested (hfront d List.mem_cons_self),
        andThen_of_ok ((result_after _ _).trans hvs), hrest]
      rfl

/-- A nested record under a rule, which may be one that cannot be read. -/
def perRule (field rule : String) (depth : Nat) (inner : Walk) : Walk :=
  match Rule.parse rule with
  | .error e => .fail e
  | .ok conditions => perClause field depth inner conditions

theorem perRule_of_error {rule : String} {e : SetupError} (h : Rule.parse rule = .error e) :
    perRule field rule depth inner = fail e := by
  unfold perRule
  rw [h]

theorem perRule_of_ok {rule : String} {conditions : List Condition}
    (h : Rule.parse rule = .ok conditions) :
    perRule field rule depth inner = perClause field depth inner conditions := by
  unfold perRule
  rw [h]

/-- **A nested record that succeeds**: its inner walk succeeds, and happens once for every clause of
    the rule. -/
theorem perRule_eq_ok {rule : String} {us : List Violation}
    (h : (perRule field rule depth inner).result = .ok us) :
    ∃ vs, inner.result = .ok vs ∧
      perRule field rule depth inner
        = ⟨(List.replicate (Rule.clauseCount rule) (.descending field depth :: inner.log)).flatten,
          .ok (List.replicate (Rule.clauseCount rule) vs).flatten⟩ := by
  cases hp : Rule.parse rule with
  | error e => rw [perRule_of_error hp] at h; cases h
  | ok conditions =>
      rw [perRule_of_ok hp] at h ⊢
      obtain ⟨hops, hin⟩ := perClause_eq_ok h
      -- a rule has a clause, even the empty one, so the inner walk has been reached
      obtain ⟨vs, hvs⟩ := hin (Rule.ne_nil_of_parse hp)
      refine ⟨vs, hvs, ?_⟩
      rw [perClause_repeats hvs hops, Rule.length_of_parse hp]

/-- A rule under which one nested record succeeds lets every record succeed that does so by
    itself. -/
theorem perRule_repeats {rule : String} {us ws : List Violation} {inner' : Walk}
    (h : (perRule field rule depth inner).result = .ok us) (hin : inner'.result = .ok ws) :
    (perRule field rule depth inner').result
      = .ok (List.replicate (Rule.clauseCount rule) ws).flatten := by
  cases hp : Rule.parse rule with
  | error e => rw [perRule_of_error hp] at h; cases h
  | ok conditions =>
      rw [perRule_of_ok hp] at h ⊢
      rw [perClause_repeats hin (perClause_eq_ok h).1, Rule.length_of_parse hp]

/-! ## 3. Frames of a record -/

@[simp] theorem result_ofRecord (fields depth : Nat) (w : Walk) :
    (w.ofRecord fields depth).result = w.result := by
  unfold ofRecord
  cases w.result <;> rfl

theorem log_ofRecord_of_ok {vs : List Violation} (h : w.result = .ok vs) (fields depth : Nat) :
    (w.ofRecord fields depth).log
      = .extracted fields depth :: w.log ++ [.validated fields vs.length depth] := by
  unfold ofRecord
  rw [h]

theorem log_ofRecord_of_error {e : SetupError} (h : w.result = .error e) (fields depth : Nat) :
    (w.ofRecord fields depth).log = .extracted fields depth :: w.log ++ [.aborted e depth] := by
  unfold ofRecord
  rw [h]

end Walk

/-! ## 4. Records and fields -/

variable [PatternEngine]

section Fields

variable (config : Config) (depth : Nat)

@[simp] theorem Record.walk_unreadable (e : SetupError) :
    (Record.unreadable e).walk config depth = ⟨[.aborted e depth], .error e⟩ := rfl

@[simp] theorem Record.walk_ofFields (fields : List Field) :
    (Record.ofFields fields).walk config depth
      = (walkFields config depth fields).ofRecord fields.length depth := rfl

@[simp] theorem walkFields_nil : walkFields config depth [] = .done := rfl

theorem walkFields_cons (field : Field) (fields : List Field) :
    walkFields config depth (field :: fields)
      = (field.walk config depth).andThen (walkFields config depth fields) := rfl

theorem Field.walk_record (name rule : String) (inner : Record) :
    (Field.mk name rule (.record inner)).walk config depth
      = (Walk.perRule name rule (depth + 1) (inner.walk config (depth + 1))).after
          (.dispatching name .record rule depth) := rfl

theorem walkFields_leaf (name rule : String) (v : Leaf) (fields : List Field) :
    walkFields config depth (.mk name rule (.leaf v) :: fields)
      = Walk.andThen ⟨[.dispatching name v.kind rule depth], v.outcome config name rule⟩
          (walkFields config depth fields) := rfl

theorem walkFields_record (name rule : String) (inner : Record) (fields : List Field) :
    walkFields config depth (.mk name rule (.record inner) :: fields)
      = ((Walk.perRule name rule (depth + 1) (inner.walk config (depth + 1))).after
            (.dispatching name .record rule depth)).andThen
          (walkFields config depth fields) := rfl

/-- A walk through fields may be cut anywhere. -/
theorem walkFields_append (front back : List Field) :
    walkFields config depth (front ++ back)
      = (walkFields config depth front).andThen (walkFields config depth back) := by
  induction front with
  | nil => exact (Walk.done_andThen _).symm
  | cons field front ih =>
      rw [List.cons_append, walkFields_cons, walkFields_cons, ih, Walk.andThen_assoc]

variable {config depth}

/-- A walk that begins with a leaf and succeeds: the leaf passes without an event of its own. -/
theorem walkFields_leaf_eq_ok {name rule : String} {v : Leaf} {fields : List Field}
    {us : List Violation}
    (h : (walkFields config depth (.mk name rule (.leaf v) :: fields)).result = .ok us) :
    ∃ vs ws, v.outcome config name rule = .ok vs ∧
      (walkFields config depth fields).result = .ok ws ∧ us = vs ++ ws ∧
      (walkFields config depth (.mk name rule (.leaf v) :: fields)).log
        = .dispatching name v.kind rule depth :: (walkFields config depth fields).log := by
  rw [walkFields_leaf] at h ⊢
  exact Walk.andThen_eq_ok h

/-- A walk that begins with a nested record and succeeds: the inner walk succeeds, and happens once
    for every clause of a rule that can be read. -/
theorem walkFields_record_eq_ok {name rule : String} {inner : Record} {fields : List Field}
    {us : List Violation}
    (h : (walkFields config depth (.mk name rule (.record inner) :: fields)).result = .ok us) :
    ∃ vs ws, (inner.walk config (depth + 1)).result = .ok vs ∧
      (walkFields config depth fields).result = .ok ws ∧
      us = (List.replicate (Rule.clauseCount rule) vs).flatten ++ ws ∧
      (walkFields config depth (.mk name rule (.record inner) :: fields)).log
        = .dispatching name .record rule depth ::
            (List.replicate (Rule.clauseCount rule)
              (.descending name (depth + 1) :: (inner.walk config (depth + 1)).log)).flatten
            ++ (walkFields config depth fields).log := by
  rw [walkFields_record] at h ⊢
  obtain ⟨xs, ws, hx, hw, rfl, hlog⟩ := Walk.andThen_eq_ok h
  rw [Walk.result_after] at hx
  obtain ⟨vs, hvs, hrepeat⟩ := Walk.perRule_eq_ok hx
  rw [hrepeat] at hx
  cases hx
  refine ⟨vs, ws, hvs, hw, rfl, ?_⟩
  rw [hlog, Walk.log_after, hrepeat]

end Fields

/-! ## 5. Whole validations -/

section Whole

variable {config : Config} {record : Record}

theorem validate_of_ok {vs : List Violation} (h : (record.walk config 0).result = .ok vs) :
    config.validate record
      = ⟨.validating config.annotationKey :: (record.walk config 0).log ++ [.finished vs.length],
        .ok vs⟩ := by
  unfold Config.validate
  simp only [h]

theorem validate_of_error {e : SetupError} (h : (record.walk config 0).result = .error e) :
    config.validate record
      = ⟨.validating config.annotationKey :: (record.walk config 0).log, .error e⟩ := by
  unfold Config.validate
  simp only [h]

/-- The report of a validation is what the walk through the record collects. -/
theorem report_eq (config : Config) (record : Record) :
    config.report record = (record.walk config 0).result.map Report.mk := by
  unfold Config.report
  cases h : (record.walk config 0).result with
  | error e => rw [validate_of_error h]
  | ok vs => rw [validate_of_ok h]

theorem report_eq_ok {report : Report} :
    config.report record = .ok report ↔ (record.walk config 0).result = .ok report.violations := by
  rw [report_eq]
  cases (record.walk config 0).result with
  | error e => exact ⟨fun h => (by cases h), fun h => (by cases h)⟩
  | ok vs =>
      constructor
      · intro h
        cases h
        rfl
      · intro h
        cases h
        rfl

theorem report_eq_error {e : SetupError} :
    config.report record = .error e ↔ (record.walk config 0).result = .error e := by
  rw [report_eq]
  cases (record.walk config 0).result with
  | error d => exact ⟨fun h => (by cases h; rfl), fun h => (by cases h; rfl)⟩
  | ok vs => exact ⟨fun h => (by cases h), fun h => (by cases h)⟩

/-- The walk through the record is what a validation with a report does between its first and its
    last event. -/
theorem log_of_report {report : Report} (h : config.report record = .ok report) :
    (config.validate record).log
      = .validating config.annotationKey :: (record.walk config 0).log
        ++ [.finished report.length] := by
  rw [validate_of_ok (report_eq_ok.mp h)]
  rfl

/-- And it is all that one with an error does behind its first event. -/
theorem log_of_error {e : SetupError} (h : config.report record = .error e) :
    (config.validate record).log
      = .validating config.annotationKey :: (record.walk config 0).log := by
  rw [validate_of_error (report_eq_error.mp h)]

end Whole

/-! ## 6. Records with one field -/

/-- The record with one field. -/
def Record.single (name rule : String) (value : FieldValue) : Record :=
  .ofFields [.mk name rule value]

section Single

variable (config : Config) (name rule : String)

/-- The walk through the record with one field is the walk through that field, framed. -/
theorem Record.walk_single (depth : Nat) (value : FieldValue) :
    (Record.single name rule value).walk config depth
      = ((Field.mk name rule value).walk config depth).ofRecord 1 depth := by
  have hfields : walkFields config depth [.mk name rule value]
      = (Field.mk name rule value).walk config depth := by
    rw [walkFields_cons, walkFields_nil, Walk.andThen_done]
  rw [Record.single, Record.walk_ofFields, hfields]
  rfl

/-- A record with one leaf has the violations of that leaf, or its error. -/
theorem report_single_leaf (v : Leaf) :
    config.report (.single name rule (.leaf v)) = (v.outcome config name rule).map Report.mk := by
  rw [report_eq, Record.walk_single, Walk.result_ofRecord]
  rfl

end Single

end RecordRules
