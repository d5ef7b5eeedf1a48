import RecordRules.Pattern.Reader
import RecordRules.Proofs.Walk

/-!
# Nested records as records of their own

The depth of a walk is shown by its events and decides nothing. So a walk further down is the same
walk with shifted events, and a nested record is validated as it would be alone:

* `Walk.shift` is a walk further down; it passes through everything that walks are built from;
* `Record.walk_shift`: a record is walked through at any depth as at any other, up to the shift;
* `report_eq_ok_at`, `report_eq_error_at`: the report of a record can be read off a walk at any
  depth.

**`nested_walk_standalone`** says what a nested record under a rule of nothing but the one operator
contributes: the report of its own validation once for every clause, and the events of that
validation, shifted, without the first and the last one.
-/

namespace RecordRules

/-! ## 1. Events further down -/

/-- The named value of an event `n` levels further down. -/
def EventValue.deepen (n : Nat) : String × EventValue → String × EventValue
  | ("depth", .number depth) => ("depth", .number (depth + n))
  | value => value

/-- A shift adds to the depth of an event and leaves its other values alone. -/
theorem Event.values_shift (n : Nat) (event : Event) :
    (event.shift n).values = event.values.map (EventValue.deepen n) := by
  cases event <;> rfl

theorem Event.level_shift (n : Nat) (event : Event) : (event.shift n).level = event.level := by
  cases event <;> rfl

theorem Event.message_shift (n : Nat) (event : Event) :
    (event.shift n).message = event.message := by
  cases event <;> rfl

/-! ## 2. Walks further down -/

namespace Walk

/-- The walk `n` levels further down. -/
def shift (n : Nat) (w : Walk) : Walk := ⟨w.log.map (Event.shift n), w.result⟩

variable {n : Nat} {w v : Walk}

@[simp] theorem log_shift : (w.shift n).log = w.log.map (Event.shift n) := rfl

@[simp] theorem result_shift : (w.shift n).result = w.result := rfl

@[simp] theorem shift_done : done.shift n = done := rfl

@[simp] theorem shift_fail (e : SetupError) : (fail e).shift n = fail e := rfl

theorem shift_after (event : Event) : (w.after event).shift n = (w.shift n).after (event.shift n) :=
  rfl

/-- The second walk is reached or not, whatever the depth. -/
theorem shift_andThen : (w.andThen v).shift n = (w.shift n).andThen (v.shift n) := by
  cases h : w.result with
  | error e =>
      rw [andThen_of_error h, andThen_of_error (w := w.shift n) h]
      rfl
  | ok vs =>
      rw [andThen_of_ok h, andThen_of_ok (w := w.shift n) h]
      show Walk.mk ((w.log ++ v.log).map (Event.shift n)) _ = _
      rw [List.map_append]
      rfl

theorem shift_perClause (field : String) (depth : Nat) : ∀ conditions : List Condition,
    (perClause field depth w conditions).shift n
      = perClause field (depth + n) (w.shift n) conditions
  | [] => rfl
  | c :: cs => by
      by_cases hc : c.operator = nestedOperator
      · rw [perClause_cons_nested hc, perClause_cons_nested hc, shift_andThen, shift_after,
          shift_perClause field depth cs]
        rfl
      · rw [perClause_cons_other hc, perClause_cons_other hc]
        rfl

theorem shift_perRule (field rule : String) (depth : Nat) :
    (perRule field rule depth w).shift n = perRule field rule (depth + n) (w.shift n) := by
  cases hp : Rule.parse rule with
  | error e =>
      rw [perRule_of_error hp, perRule_of_error hp]
      rfl
  | ok conditions =>
      rw [perRule_of_ok hp, perRule_of_ok hp]
      exact shift_perClause field depth conditions

theorem shift_ofRecord (fields depth : Nat) :
    (w.ofRecord fields depth).shift n = (w.shift n).ofRecord fields (depth + n) := by
  unfold ofRecord
  rw [result_shift]
  cases w.result with
  | error e => simp [shift, Event.shift]
  | ok vs => simp [shift, Event.shift]

end Walk

/-! ## 3. Records at any depth -/

section Records

variable [PatternEngine] (config : Config)

mutual

/-- **A record is walked through further down as it is here**, with all events shifted. -/
theorem Record.walk_shift (depth n : Nat) : ∀ record : Record,
    record.walk config (depth + n) = (record.walk config depth).shift n
  | .unreadable e => rfl
  | .ofFields fields => by
      rw [Record.walk_ofFields, Record.walk_ofFields, walkFields_shift depth n fields,
        Walk.shift_ofRecord]

theorem walkFields_shift (depth n : Nat) : ∀ fields : List Field,
    walkFields config (depth + n) fields = (walkFields config depth fields).shift n
  | [] => rfl
  | .mk name rule (.leaf v) :: fields => by
      rw [walkFields_leaf, walkFields_leaf, walkFields_shift depth n fields, Walk.shift_andThen]
      rfl
  | .mk name rule (.record inner) :: fields => by
      -- one level down from `depth + n` is `n` levels down from `depth + 1`
      have ih := Record.walk_shift (depth + 1) n inner
      rw [walkFields_record, walkFields_record, walkFields_shift depth n fields,
        Walk.shift_andThen, Walk.shift_after, Walk.shift_perRule, ← ih, Nat.add_right_comm]
      rfl

end

variable {config}

/-- What a walk through a record comes to does not depend on the depth. -/
theorem Record.walk_eq_shift (depth : Nat) (record : Record) :
    record.walk config depth = (record.walk config 0).shift depth := by
  rw [← Record.walk_shift, Nat.zero_add]

theorem report_eq_ok_at (depth : Nat) {record : Record} {report : Report} :
    config.report record = .ok report ↔
      (record.walk config depth).result = .ok report.violations := by
  rw [report_eq_ok, Record.walk_eq_shift depth, Walk.result_shift]

theorem report_eq_error_at (depth : Nat) {record : Record} {e : SetupError} :
    config.report record = .error e ↔ (record.walk config depth).result = .error e := by
  rw [report_eq_error, Record.walk_eq_shift depth, Walk.result_shift]

end Records

/-! ## 4. Nested records -/

section Nested

variable [PatternEngine] {config : Config} {record : Record} {name rule : String}
  {conditions : List Condition}

/-- The walk through a nested record, told by the walk through it as a record of its own. -/
theorem Field.walk_nested (depth : Nat) (hrule : Rule.parse rule = .ok conditions) :
    (Field.mk name rule (.record record)).walk config depth
      = (Walk.perClause name (depth + 1) ((record.walk config 0).shift (depth + 1))
          conditions).after (.dispatching name .record rule depth) := by
  rw [Field.walk_record, Walk.perRule_of_ok hrule, ← Record.walk_eq_shift]

/-- **A nested record is validated as a record of its own**, once for every clause of its rule, as
    long as it has a report: it contributes that report and the events of that validation, shifted,
    without the first and the last one. If it has none, its error comes out of the first round. A
    shift changes nothing of an event but its depth. -/
theorem nested_walk_standalone (depth : Nat) (hrule : Rule.parse rule = .ok conditions)
    (hops : ∀ c ∈ conditions, c.operator = nestedOperator) :
    1 ≤ conditions.length ∧
    (∀ report, config.report record = .ok report → ∃ inner,
      (config.validate record).log
          = .validating config.annotationKey :: inner ++ [.finished report.length] ∧
        (Field.mk name rule (.record record)).walk config depth
          = ⟨.dispatching name .record rule depth ::
              (List.replicate conditions.length
                (.descending name (depth + 1) :: inner.map (Event.shift (depth + 1)))).flatten,
            .ok (List.replicate conditions.length report.violations).flatten⟩) ∧
    (∀ e, config.report record = .error e → ∃ inner,
      (config.validate record).log = .validating config.annotationKey :: inner ∧
        (Field.mk name rule (.record record)).walk config depth
          = ⟨.dispatching name .record rule depth ::
              .descending name (depth + 1) :: inner.map (Event.shift (depth + 1)),
            .error e⟩) ∧
    (∀ event : Event, (event.shift (depth + 1)).level = event.level ∧
      (event.shift (depth + 1)).message = event.message ∧
      (event.shift (depth + 1)).values = event.values.map (EventValue.deepen (depth + 1))) := by
  have hne : conditions ≠ [] := Rule.ne_nil_of_parse hrule
  refine ⟨List.length_pos_iff.mpr hne, fun report h => ?_, fun e h => ?_, fun event =>
    ⟨event.level_shift _, event.message_shift _, event.values_shift _⟩⟩
  · refine ⟨(record.walk config 0).log, log_of_report h, ?_⟩
    have hin : ((record.walk config 0).shift (depth + 1)).result = .ok report.violations :=
      report_eq_ok.mp h
    rw [Field.walk_nested depth hrule, Walk.perClause_repeats hin hops]
    rfl
  · refine ⟨(record.walk config 0).log, log_of_error h, ?_⟩
    have hin : ((record.walk config 0).shift (depth + 1)).result = .error e :=
      report_eq_error.mp h
    -- the first round fails, so the other clauses are not reached
    obtain ⟨c, cs, rfl⟩ := List.exists_cons_of_ne_nil hne
    rw [Field.walk_nested depth hrule, Walk.perClause_cons_nested (hops c List.mem_cons_self),
      Walk.andThen_of_error ((Walk.result_after _ _).trans hin)]
    rfl

end Nested

open scoped Pattern

/-- A number that is too small, and an empty record behind it. -/
def smallNumber : Record :=
  .ofFields [.mk "n" "min:5" (.leaf (.int 3)), .mk "e" "nested" (.record (.ofFields []))]

/-- A string whose rule does not fit. -/
def unfitRule : Record := .ofFields [.mk "s" "min:5" (.leaf (.str "ab"))]

/-- Two rounds through a record with a violation, and one through a record with an error. -/
theorem nested_walk_standalone_twoClauses :
    Rule.parse "nested|nested:x" = .ok [⟨"nested", ""⟩, ⟨"nested", "x"⟩] ∧
      (∀ c ∈ [Condition.mk "nested" "", ⟨"nested", "x"⟩], c.operator = nestedOperator) ∧
      (∃ inner, (Config.standard.validate smallNumber).log
            = .validating "validate" :: inner ++ [.finished 1] ∧
          (Field.mk "outer" "nested|nested:x" (.record smallNumber)).walk .standard 3
            = ⟨.dispatching "outer" .record "nested|nested:x" 3 ::
                (List.replicate 2 (.descending "outer" 4 :: inner.map (Event.shift 4))).flatten,
              .ok [⟨"n", .intMin⟩, ⟨"n", .intMin⟩]⟩) ∧
      (∃ inner, (Config.standard.validate unfitRule).log = .validating "validate" :: inner ∧
          (Field.mk "outer" "nested|nested:x" (.record unfitRule)).walk .standard 3
            = ⟨.dispatching "outer" .record "nested|nested:x" 3 :: .descending "outer" 4 ::
                inner.map (Event.shift 4),
              .error (.unsupportedOperator "s" "min")⟩) := by
  have hrule : Rule.parse "nested|nested:x" = .ok [⟨"nested", ""⟩, ⟨"nested", "x"⟩] := rfl
  have hops : ∀ c ∈ [Condition.mk "nested" "", ⟨"nested", "x"⟩], c.operator = nestedOperator := by
    decide
  have hok : Config.standard.report smallNumber = .ok ⟨[⟨"n", .intMin⟩]⟩ := rfl
  have herror : Config.standard.report unfitRule = .error (.unsupportedOperator "s" "min") := rfl
  exact ⟨hrule, hops, (nested_walk_standalone 3 hrule hops).2.1 _ hok,
    (nested_walk_standalone 3 hrule hops).2.2.1 _ herror⟩

end RecordRules
