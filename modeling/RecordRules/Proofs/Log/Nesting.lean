import RecordRules.Pattern.Reader
import RecordRules.Proofs.Log.Unwinding

/-!
# The log of a validation that comes to its end

Such a log is a bracket word: a record opens with `extracted` and closes with `validated`, and
between the two stand its fields in order, a nested record once for every clause of its rule.
The word is given as a function of the record alone, without running anything:

* `Record.tally` counts the violations of a record, nested ones as often as they are walked through;
* `Record.body` is the word, whose closing brackets carry these counts;
* `Record.walk_body`: a walk that succeeds leaves this word behind, and as many violations.

**`log_of_completed`** says that the log of a validation with a report is this word between the
first and the last event, and that the last count is the length of the report. How many records
are opened and closed in it comes from `Record.walk_balanced`.
-/

namespace RecordRules

/-! ## 1. The bracket word of a record -/

section Words

variable [PatternEngine]

/-- The number of violations of a leaf. -/
def Leaf.tally (config : Config) (name rule : String) (v : Leaf) : Nat :=
  match v.outcome config name rule with
  | .error _ => 0
  | .ok vs => vs.length

mutual

/-- The number of violations of a record. -/
def Record.tally (config : Config) : Record → Nat
  | .unreadable _ => 0
  | .ofFields fields => fieldTally config fields

/-- The number of violations of fields. A nested record counts once for every clause. -/
def fieldTally (config : Config) : List Field → Nat
  | [] => 0
  | .mk name rule (.leaf v) :: fields => v.tally config name rule + fieldTally config fields
  | .mk _ rule (.record inner) :: fields =>
    Rule.clauseCount rule * inner.tally config + fieldTally config fields

end

mutual

/-- The word of a record at a depth: its fields between two brackets. -/
def Record.body (config : Config) (depth : Nat) : Record → List Event
  | .unreadable _ => []
  | .ofFields fields =>
    .extracted fields.length depth :: fieldSegments config depth fields
      ++ [.validated fields.length (fieldTally config fields) depth]

/-- The words of fields in order: each its own event, and behind that of a nested record a descent
    and the word of the inner record, once for every clause. -/
def fieldSegments (config : Config) (depth : Nat) : List Field → List Event
  | [] => []
  | .mk name rule (.leaf v) :: fields =>
    .dispatching name v.kind rule depth :: fieldSegments config depth fields
  | .mk name rule (.record inner) :: fields =>
    .dispatching name .record rule depth ::
      (List.replicate (Rule.clauseCount rule)
        (.descending name (depth + 1) :: inner.body config (depth + 1))).flatten
      ++ fieldSegments config depth fields

end

section Body

variable (config : Config)

mutual

/-- **A walk that succeeds leaves the word of its record behind**, and as many violations as that
    counts. -/
theorem Record.walk_body (depth : Nat) : ∀ {record : Record} {us : List Violation},
    (record.walk config depth).result = .ok us →
      (record.walk config depth).log = record.body config depth ∧ us.length = record.tally config
  | .unreadable e, us, h => by cases h
  | .ofFields fields, us, h => by
      rw [Record.walk_ofFields, Walk.result_ofRecord] at h
      obtain ⟨hlog, hlen⟩ := walkFields_segments depth h
      rw [Record.walk_ofFields, Walk.log_ofRecord_of_ok h, hlog, hlen]
      exact ⟨rfl, rfl⟩

theorem walkFields_segments (depth : Nat) : ∀ {fields : List Field} {us : List Violation},
    (walkFields config depth fields).result = .ok us →
      (walkFields config depth fields).log = fieldSegments config depth fields ∧
      us.length = fieldTally config fields
  | [], us, h => by
      cases h
      exact ⟨rfl, rfl⟩
  | .mk name rule (.leaf v) :: fields, us, h => by
      obtain ⟨vs, ws, hv, hw, rfl, hlog⟩ := walkFields_leaf_eq_ok h
      obtain ⟨ihlog, ihlen⟩ := walkFields_segments depth hw
      have htally : v.tally config name rule = vs.length := by
        unfold Leaf.tally
        rw [hv]
      refine ⟨?_, ?_⟩
      · rw [hlog, ihlog]
        rfl
      · rw [List.length_append, ihlen, fieldTally, htally]
  | .mk name rule (.record inner) :: fields, us, h => by
      obtain ⟨vs, ws, hv, hw, rfl, hlog⟩ := walkFields_record_eq_ok h
      obtain ⟨inlog, inlen⟩ := Record.walk_body (depth + 1) hv
      obtain ⟨ihlog, ihlen⟩ := walkFields_segments depth hw
      refine ⟨?_, ?_⟩
      · rw [hlog, inlog, ihlog]
        rfl
      · rw [List.length_append, List.length_flatten, List.map_replicate, List.sum_replicate_nat,
          inlen, ihlen, fieldTally]

end

end Body

/-! ## 2. Whole validations -/

/-- **The log of a validation with a report is the word of its record between two events**, and
    counts are conserved: the record closes with the length of the report, as does the validation;
    one record more is opened, and closed, than descended into; and none is given up. -/
theorem log_of_completed {config : Config} {record : Record} {report : Report}
    (h : config.report record = .ok report) :
    (config.validate record).log
        = .validating config.annotationKey :: record.body config 0 ++ [.finished report.length] ∧
      (∃ fields, record = .ofFields fields ∧
        record.body config 0 = .extracted fields.length 0 :: fieldSegments config 0 fields
          ++ [.validated fields.length report.length 0]) ∧
      record.tally config = report.length ∧
      (config.validate record).log.countP Event.isExtracted
        = (config.validate record).log.countP Event.isDescending + 1 ∧
      (config.validate record).log.countP Event.isValidated
        = (config.validate record).log.countP Event.isDescending + 1 ∧
      ∀ event ∈ (config.validate record).log, event.isAborted = false := by
  rw [report_eq_ok] at h
  obtain ⟨hbody, htally⟩ := Record.walk_body config 0 h
  have hbalanced := Record.walk_balanced config h
  have hlog : (config.validate record).log
      = .validating config.annotationKey :: record.body config 0 ++ [.finished report.length] := by
    rw [validate_of_ok h, hbody]
    rfl
  rw [hbody] at hbalanced
  refine ⟨hlog, ?_, htally.symm, ?_, ?_, ?_⟩
  · cases record with
    | unreadable e => cases h
    | ofFields fields =>
        refine ⟨fields, rfl, ?_⟩
        rw [Record.tally] at htally
        rw [Record.body, ← htally]
        rfl
  · rw [hlog]
    simpa [List.countP_cons, Event.isExtracted, Event.isDescending] using hbalanced.extracted
  · rw [hlog]
    simpa [List.countP_cons, Event.isValidated, Event.isDescending] using hbalanced.validated
  · rw [hlog]
    have hinside : ∀ event ∈ record.body config 0, event.isAborted = false :=
      fun event he => Event.not_isAborted_of_isInside (hbalanced.inside event he)
    exact List.forall_mem_append.mpr
      ⟨List.forall_mem_cons.mpr ⟨rfl, hinside⟩, List.forall_mem_singleton.mpr rfl⟩

end Words

/-- A nested record that is walked through twice, and in it an empty one, in front of a sequence. -/
def twiceNested : Record :=
  .ofFields
    [.mk "outer" "nested|nested:x" (.record (.ofFields
      [.mk "n" "min:5|max:1" (.leaf (.int 3)), .mk "e" "nested" (.record (.ofFields []))])),
     .mk "tags" "len:2" (.leaf (.strSeq ["a", "bc"]))]

/-- What is wrong with it: the integer twice in each round, and an item of the sequence. -/
def twiceNestedReport : Report :=
  ⟨[⟨"n", .intMin⟩, ⟨"n", .intMax⟩, ⟨"n", .intMin⟩, ⟨"n", .intMax⟩, ⟨"tags", .strLen⟩]⟩

open scoped Pattern

/-- Five records are opened in it and four of them descended into. -/
theorem log_of_completed_twiceNested :
    Config.standard.report twiceNested = .ok twiceNestedReport ∧
      (Config.standard.validate twiceNested).log
        = .validating "validate" :: twiceNested.body .standard 0 ++ [.finished 5] ∧
      twiceNested.tally .standard = 5 ∧
      (Config.standard.validate twiceNested).log.countP Event.isExtracted
        = (Config.standard.validate twiceNested).log.countP Event.isDescending + 1 := by
  have h : Config.standard.report twiceNested = .ok twiceNestedReport := rfl
  obtain ⟨hlog, -, htally, hopened, -, -⟩ := log_of_completed h
  exact ⟨h, hlog, htally, hopened⟩

end RecordRules
