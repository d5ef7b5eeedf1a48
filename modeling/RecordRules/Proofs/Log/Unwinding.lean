import RecordRules.Pattern.Reader
import RecordRules.Proofs.Visits

/-!
# The log of a validation that fails

A record that is opened is closed by `validated` at its end, or left by `aborted` when an error
passes through it. So the log of a walk is one of two things:

* everything opened is closed again (`Balanced`);
* an error has been met somewhere: what was closed before it is balanced, the records around it are
  open, and they are left one after the other from the inside out (`Unwinds`). How many there are is
  read off the first failing visit, which knows its depth.

`Logged` ties either to the visits of the walk. Walks in a row keep it (`Logged.andThen`), and so do
the events around fields, descents and records, hence every walk has it (`Record.walk_logged`).
**`log_of_failed`** is what it says of a whole validation.
-/

namespace RecordRules

/-! ## 1. Kinds of events -/

namespace Event

/-- Whether a record is opened. -/
def isExtracted : Event → Bool
  | .extracted .. => true
  | _ => false

/-- Whether a record is closed at its end. -/
def isValidated : Event → Bool
  | .validated .. => true
  | _ => false

/-- Whether a nested record is about to be opened. -/
def isDescending : Event → Bool
  | .descending .. => true
  | _ => false

/-- Whether a record is left because of an error. -/
def isAborted : Event → Bool
  | .aborted .. => true
  | _ => false

/-- Whether a validation comes to its end. -/
def isFinished : Event → Bool
  | .finished _ => true
  | _ => false

/-- Whether an event belongs to a record and does not give it up. -/
def isInside : Event → Bool
  | .extracted .. | .dispatching .. | .descending .. | .validated .. => true
  | .validating _ | .aborted .. | .finished _ => false

theorem not_isAborted_of_isInside {event : Event} (h : event.isInside = true) :
    event.isAborted = false := by
  cases event with
  | validating | aborted | finished => cases h
  | extracted | dispatching | descending | validated => rfl

theorem not_isFinished_of_isInside {event : Event} (h : event.isInside = true) :
    event.isFinished = false := by
  cases event with
  | validating | aborted | finished => cases h
  | extracted | dispatching | descending | validated => rfl

end Event

/-! ## 2. Counting brackets -/

/-- A part of a log with `records` records at its outside and everything opened closed again. -/
structure Balanced (records : Nat) (log : List Event) : Prop where
  /-- Nothing is given up, and nothing is said about the validation as a whole. -/
  inside : ∀ event ∈ log, event.isInside = true
  /-- Every record that is opened is at the outside or descended into. -/
  extracted : log.countP Event.isExtracted = log.countP Event.isDescending + records
  /-- And so is every one that is closed. -/
  validated : log.countP Event.isValidated = log.countP Event.isDescending + records

namespace Balanced

variable {m n : Nat} {log front : List Event}

theorem nil : Balanced 0 [] where
  inside _ h := absurd h List.not_mem_nil
  extracted := rfl
  validated := rfl

theorem append (hl : Balanced m front) (hr : Balanced n log) : Balanced (m + n) (front ++ log) where
  inside := List.forall_mem_append.mpr ⟨hl.inside, hr.inside⟩
  extracted := by
    have hfront := hl.extracted
    have hlog := hr.extracted
    rw [List.countP_append, List.countP_append]
    omega
  validated := by
    have hfront := hl.validated
    have hlog := hr.validated
    rw [List.countP_append, List.countP_append]
    omega

theorem dispatching (name : String) (kind : FieldKind) (rule : String) (depth : Nat)
    (h : Balanced n log) : Balanced n (.dispatching name kind rule depth :: log) where
  inside := List.forall_mem_cons.mpr ⟨rfl, h.inside⟩
  extracted := by
    simpa [List.countP_cons, Event.isExtracted, Event.isDescending] using h.extracted
  validated := by
    simpa [List.countP_cons, Event.isValidated, Event.isDescending] using h.validated

/-- A record behind the descent into it is no longer at the outside. -/
theorem descending (name : String) (depth : Nat) (h : Balanced (n + 1) log) :
    Balanced n (.descending name depth :: log) where
  inside := List.forall_mem_cons.mpr ⟨rfl, h.inside⟩
  extracted := by
    have hlog := h.extracted
    simp only [List.countP_cons, Event.isExtracted, Event.isDescending, Bool.false_eq_true,
      ↓reduceIte]
    omega
  validated := by
    have hlog := h.validated
    simp only [List.countP_cons, Event.isValidated, Event.isDescending, Bool.false_eq_true,
      ↓reduceIte]
    omega

/-- Two brackets make a record. -/
theorem record (fields violations depth : Nat) (h : Balanced n log) :
    Balanced (n + 1) (.extracted fields depth :: log ++ [.validated fields violations depth]) where
  inside := List.forall_mem_append.mpr
    ⟨List.forall_mem_cons.mpr ⟨rfl, h.inside⟩, List.forall_mem_singleton.mpr rfl⟩
  extracted := by
    have hlog := h.extracted
    simp only [List.countP_append, List.countP_cons, List.countP_nil, Event.isExtracted,
      Event.isDescending, Bool.false_eq_true, ↓reduceIte]
    omega
  validated := by
    have hlog := h.validated
    simp only [List.countP_append, List.countP_cons, List.countP_nil, Event.isValidated,
      Event.isDescending, Bool.false_eq_true, ↓reduceIte]
    omega

end Balanced

/-! ## 3. Leaving records -/

/-- The events of leaving `levels` records from the inside out; the last one is at `depth`. -/
def leaving (e : SetupError) (depth levels : Nat) : List Event :=
  (List.range levels).reverse.map fun i => .aborted e (depth + i)

theorem leaving_succ (e : SetupError) (depth levels : Nat) :
    leaving e depth (levels + 1) = leaving e (depth + 1) levels ++ [.aborted e depth] := by
  unfold leaving
  rw [List.range_succ_eq_map, List.reverse_cons, List.map_append, ← List.map_reverse, List.map_map]
  congr 1
  refine List.map_congr_left fun i _ => ?_
  show Event.aborted e (depth + (i + 1)) = Event.aborted e (depth + 1 + i)
  rw [Nat.add_right_comm, Nat.add_assoc]

theorem leaving_zero (e : SetupError) (levels : Nat) :
    leaving e 0 levels = (List.range levels).reverse.map (.aborted e) := by
  unfold leaving
  simp only [Nat.zero_add]

theorem eq_aborted_of_mem_leaving {e : SetupError} {depth levels : Nat} {event : Event}
    (h : event ∈ leaving e depth levels) : ∃ d, event = .aborted e d := by
  obtain ⟨i, -, hi⟩ := List.mem_map.mp h
  exact ⟨depth + i, hi.symm⟩

theorem countP_leaving_eq_zero (p : Event → Bool) (e : SetupError) (depth levels : Nat)
    (hp : ∀ d, p (.aborted e d) = false) :
    (leaving e depth levels).countP p = 0 := by
  refine List.countP_eq_zero.mpr fun event h => ?_
  obtain ⟨d, rfl⟩ := eq_aborted_of_mem_leaving h
  rw [hp d]
  exact Bool.false_ne_true

theorem countP_isAborted_leaving (e : SetupError) (depth levels : Nat) :
    (leaving e depth levels).countP Event.isAborted = levels := by
  have hall : ∀ event ∈ leaving e depth levels, event.isAborted = true := by
    intro event h
    obtain ⟨d, rfl⟩ := eq_aborted_of_mem_leaving h
    rfl
  rw [List.countP_eq_length.mpr hall]
  unfold leaving
  rw [List.length_map, List.length_reverse, List.length_range]

/-- One for a record that could not be read, and so was never opened. -/
def Visit.unread (v : Visit) : Nat :=
  match v.field? with
  | none => 1
  | some _ => 0

/-- A part of a log that the error of the visit `v` ended, down to the record at `depth`. -/
def Unwinds (v : Visit) (e : SetupError) (depth : Nat) (log : List Event) : Prop :=
  ∃ body levels, log = body ++ leaving e depth levels ∧ depth + levels = v.depth + 1 ∧
    (∀ event ∈ body, event.isInside = true) ∧
    body.countP Event.isExtracted + v.unread = body.countP Event.isValidated + levels

namespace Unwinds

variable {v : Visit} {e : SetupError} {depth : Nat} {front log : List Event}

/-- What is balanced may stand in front. -/
theorem append (hf : Balanced 0 front) (h : Unwinds v e depth log) :
    Unwinds v e depth (front ++ log) := by
  obtain ⟨body, levels, rfl, hlevels, hin, hcount⟩ := h
  refine ⟨front ++ body, levels, (List.append_assoc _ _ _).symm, hlevels,
    List.forall_mem_append.mpr ⟨hf.inside, hin⟩, ?_⟩
  have hopened := hf.extracted
  have hclosed := hf.validated
  rw [List.countP_append, List.countP_append]
  omega

/-- And so may the descent into the record that is left. -/
theorem descending (name : String) (d : Nat) (h : Unwinds v e depth log) :
    Unwinds v e depth (.descending name d :: log) := by
  obtain ⟨body, levels, rfl, hlevels, hin, hcount⟩ := h
  refine ⟨.descending name d :: body, levels, rfl, hlevels,
    List.forall_mem_cons.mpr ⟨rfl, hin⟩, ?_⟩
  simpa [List.countP_cons, Event.isExtracted, Event.isValidated] using hcount

/-- The record around is opened before, and left after everything inside. -/
theorem record (fields : Nat) (h : Unwinds v e (depth + 1) log) :
    Unwinds v e depth (.extracted fields depth :: log ++ [.aborted e depth]) := by
  obtain ⟨body, levels, rfl, hlevels, hin, hcount⟩ := h
  refine ⟨.extracted fields depth :: body, levels + 1, ?_, by omega,
    List.forall_mem_cons.mpr ⟨rfl, hin⟩, ?_⟩
  · rw [leaving_succ, List.cons_append, List.cons_append, List.append_assoc]
  · simp only [List.countP_cons, Event.isExtracted, Event.isValidated, Bool.false_eq_true,
      ↓reduceIte]
    omega

/-- An error of a field leaves no record that was opened behind it. -/
theorem ofField (field : Field) (e : SetupError) (depth : Nat) :
    Unwinds ⟨depth, some field, .error e⟩ e (depth + 1) [] :=
  ⟨[], 0, rfl, rfl, fun _ h => absurd h List.not_mem_nil, rfl⟩

/-- A record that cannot be read is left without having been opened. -/
theorem unreadable (e : SetupError) (depth : Nat) :
    Unwinds ⟨depth, none, .error e⟩ e depth [.aborted e depth] :=
  ⟨[], 1, rfl, rfl, fun _ h => absurd h List.not_mem_nil, rfl⟩

/-- At the outside, the log ends with every record from the failing one to the outermost. -/
theorem eq_append_leaving (h : Unwinds v e 0 log) :
    ∃ body, log = body ++ (List.range (v.depth + 1)).reverse.map (.aborted e) := by
  obtain ⟨body, levels, rfl, hlevels, -, -⟩ := h
  refine ⟨body, ?_⟩
  rw [leaving_zero, ← hlevels, Nat.zero_add]

/-- Nothing else is given up. -/
theorem countP_isAborted (h : Unwinds v e depth log) :
    depth + log.countP Event.isAborted = v.depth + 1 := by
  obtain ⟨body, levels, rfl, hlevels, hin, -⟩ := h
  have hbody : body.countP Event.isAborted = 0 := by
    refine List.countP_eq_zero.mpr fun event hm => ?_
    rw [Event.not_isAborted_of_isInside (hin event hm)]
    exact Bool.false_ne_true
  rw [List.countP_append, hbody, countP_isAborted_leaving, Nat.zero_add, hlevels]

/-- Nothing is said about the end of the validation. -/
theorem not_isFinished (h : Unwinds v e depth log) :
    ∀ event ∈ log, event.isFinished = false := by
  obtain ⟨body, levels, rfl, -, hin, -⟩ := h
  refine List.forall_mem_append.mpr ⟨fun event hm => ?_, fun event hm => ?_⟩
  · exact Event.not_isFinished_of_isInside (hin event hm)
  · obtain ⟨i, rfl⟩ := eq_aborted_of_mem_leaving hm
    rfl

/-- What was opened and not closed is what is left, unless it was never opened. -/
theorem countP_isExtracted (h : Unwinds v e depth log) :
    depth + log.countP Event.isExtracted + v.unread
      = log.countP Event.isValidated + v.depth + 1 := by
  obtain ⟨body, levels, rfl, hlevels, -, hcount⟩ := h
  have hopened := countP_leaving_eq_zero Event.isExtracted e depth levels fun _ => rfl
  have hclosed := countP_leaving_eq_zero Event.isValidated e depth levels fun _ => rfl
  rw [List.countP_append, List.countP_append, hopened, hclosed]
  omega

end Unwinds

/-! ## 4. Logs and visits -/

theorem firstFailure?_append (us vs : List Visit) :
    firstFailure? (us ++ vs) = (firstFailure? us).or (firstFailure? vs) :=
  List.find?_append

/-- **The log of a walk with given visits**: balanced as long as none of them fails, and otherwise
    ended by the first that does. -/
inductive Logged (records depth : Nat) (w : Walk) (visits : List Visit) : Prop where
  /-- No visit fails. -/
  | completed {vs : List Violation} (first : firstFailure? visits = none)
      (result : w.result = .ok vs) (log : Balanced records w.log)
  /-- The visit `v` is the first to fail. -/
  | failed {v : Visit} {e : SetupError} (first : firstFailure? visits = some v)
      (error : v.outcome = .error e) (result : w.result = .error e) (log : Unwinds v e depth w.log)

namespace Logged

variable {depth : Nat} {w v : Walk} {us vs : List Visit}

/-- Walks in a row, where the second is as if it had never been when the first fails. -/
theorem andThen (hw : Logged 0 depth w us) (hv : Logged 0 depth v vs) :
    Logged 0 depth (w.andThen v) (us ++ vs) := by
  cases hw with
  | failed first error result log =>
      rw [Walk.andThen_of_error result]
      refine .failed ?_ error rfl log
      rw [firstFailure?_append, first, Option.some_or]
  | completed first result log =>
      have hfirst : firstFailure? (us ++ vs) = firstFailure? vs := by
        rw [firstFailure?_append, first, Option.none_or]
      rw [Walk.andThen_of_ok result]
      cases hv with
      | completed first' result' log' =>
          exact .completed (hfirst.trans first') (by rw [result']; rfl) (log.append log')
      | failed first' error result' log' =>
          exact .failed (hfirst.trans first') error (by rw [result']; rfl) (log'.append log)

/-- The event of a field in front. -/
theorem dispatching (name : String) (kind : FieldKind) (rule : String) (d : Nat)
    (h : Logged 0 depth w us) : Logged 0 depth (w.after (.dispatching name kind rule d)) us := by
  have hone : Balanced 0 [Event.dispatching name kind rule d] :=
    Balanced.nil.dispatching name kind rule d
  cases h with
  | completed first result log => exact .completed first result (log.dispatching name kind rule d)
  | failed first error result log => exact .failed first error result (log.append hone)

/-- The descent into a record in front. -/
theorem descending (name : String) (d : Nat) (h : Logged 1 depth w us) :
    Logged 0 depth (w.after (.descending name d)) us := by
  cases h with
  | completed first result log => exact .completed first result (log.descending name d)
  | failed first error result log => exact .failed first error result (log.descending name d)

/-- The events of the record around. -/
theorem record (fields : Nat) (h : Logged 0 (depth + 1) w us) :
    Logged 1 depth (w.ofRecord fields depth) us := by
  cases h with
  | completed first result log =>
      refine .completed first ((Walk.result_ofRecord _ _ _).trans result) ?_
      rw [Walk.log_ofRecord_of_ok result]
      exact log.record _ _ _
  | failed first error result log =>
      refine .failed first error ((Walk.result_ofRecord _ _ _).trans result) ?_
      rw [Walk.log_ofRecord_of_error result]
      exact log.record _

/-- A walk without events is that of one outcome of a field. -/
theorem ofOutcome (field : Field) (outcome : Except SetupError (List Violation)) (depth : Nat) :
    Logged 0 (depth + 1) ⟨[], outcome⟩ [⟨depth, some field, outcome⟩] := by
  cases outcome with
  | ok vs => exact .completed rfl rfl Balanced.nil
  | error e => exact .failed rfl rfl rfl (Unwinds.ofField field e depth)

theorem perClause (field : Field) {inner : Walk} {visits : List Visit}
    (h : Logged 1 (depth + 1) inner visits) : ∀ conditions : List Condition,
      Logged 0 (depth + 1) (Walk.perClause field.name (depth + 1) inner conditions)
        (clauseVisits depth field visits conditions)
  | [] => .completed rfl rfl Balanced.nil
  | c :: cs => by
      unfold clauseVisits
      rw [List.flatMap_cons]
      by_cases hc : c.operator = nestedOperator
      · rw [Walk.perClause_cons_nested hc, if_pos hc]
        exact (h.descending field.name (depth + 1)).andThen (perClause field h cs)
      · rw [Walk.perClause_cons_other hc, if_neg hc]
        -- the clauses behind this one have visits, but the walk ends here
        exact .failed rfl rfl rfl (Unwinds.ofField field _ depth)

theorem perRule (field : Field) {inner : Walk} {visits : List Visit}
    (h : Logged 1 (depth + 1) inner visits) :
    Logged 0 (depth + 1) (Walk.perRule field.name field.rule (depth + 1) inner)
      (ruleVisits depth field visits) := by
  unfold ruleVisits
  cases hp : Rule.parse field.rule with
  | error e =>
      rw [Walk.perRule_of_error hp]
      exact ofOutcome field (.error e) depth
  | ok conditions =>
      rw [Walk.perRule_of_ok hp]
      exact perClause field h conditions

end Logged

section Walks

variable [PatternEngine] (config : Config)

mutual

/-- **Every walk leaves the log of its visits behind.** -/
theorem Record.walk_logged (depth : Nat) : ∀ record : Record,
    Logged 1 depth (record.walk config depth) (record.visits config depth)
  | .unreadable e => .failed rfl rfl rfl (Unwinds.unreadable e depth)
  | .ofFields fields => (walkFields_logged depth fields).record fields.length

theorem walkFields_logged (depth : Nat) : ∀ fields : List Field,
    Logged 0 (depth + 1) (walkFields config depth fields) (fieldVisits config depth fields)
  | [] => .completed rfl rfl Balanced.nil
  | .mk name rule (.leaf v) :: fields =>
      ((Logged.ofOutcome (.mk name rule (.leaf v)) (v.outcome config name rule) depth).dispatching
        name v.kind rule depth).andThen (walkFields_logged depth fields)
  | .mk name rule (.record inner) :: fields => by
      have ih := Logged.perRule (.mk name rule (.record inner))
        (Record.walk_logged (depth + 1) inner)
      exact (ih.dispatching name .record rule depth).andThen (walkFields_logged depth fields)

end

/-- A walk that succeeds closes what it opens. -/
theorem Record.walk_balanced {depth : Nat} {record : Record} {us : List Violation}
    (h : (record.walk config depth).result = .ok us) :
    Balanced 1 (record.walk config depth).log := by
  cases Record.walk_logged config depth record with
  | completed _ _ log => exact log
  | failed _ _ result _ => rw [h] at result; cases result

end Walks

/-! ## 5. Whole validations -/

/-- **The log of a validation with an error.** The first visit that fails says how deep the record
    lies that the error arose in. That record and those around it are left one after the other, with
    the same error, and this is how the log ends. Nothing is left before, the validation does not
    come to its end, and the records that are opened and not closed are those that are left; only a
    record that could not be read was never opened. -/
theorem log_of_failed [PatternEngine] {config : Config} {record : Record} {e : SetupError}
    (h : config.report record = .error e) :
    ∃ v body, firstFailure? (record.visits config 0) = some v ∧ v.outcome = .error e ∧
      (config.validate record).log
        = .validating config.annotationKey :: body
          ++ (List.range (v.depth + 1)).reverse.map (.aborted e) ∧
      (∀ depth, (Event.aborted e depth).values
        = [("code", .text e.code), ("field", .text (e.field?.getD "")), ("depth", .number depth),
          ("error", .text e.message)]) ∧
      (config.validate record).log.countP Event.isAborted = v.depth + 1 ∧
      (∀ event ∈ (config.validate record).log, event.isFinished = false) ∧
      (config.validate record).log.countP Event.isExtracted
        = (config.validate record).log.countP Event.isValidated
          + if v.field? = none then v.depth else v.depth + 1 := by
  rw [report_eq_error] at h
  cases Record.walk_logged config 0 record with
  | completed _ result _ => rw [h] at result; cases result
  | @failed v d first error result log =>
      rw [h] at result
      cases result
      obtain ⟨body, hlog⟩ := log.eq_append_leaving
      have haborted := log.countP_isAborted
      have hopened := log.countP_isExtracted
      have hfinished := log.not_isFinished
      rw [validate_of_error h]
      refine ⟨v, body, first, error, ?_, fun _ => rfl, ?_, ?_, ?_⟩
      · rw [hlog]
        rfl
      · simp only [List.countP_cons, Event.isAborted, Bool.false_eq_true, ↓reduceIte]
        omega
      · exact List.forall_mem_cons.mpr ⟨rfl, hfinished⟩
      · simp only [List.countP_cons, Event.isExtracted, Event.isValidated, Bool.false_eq_true,
          ↓reduceIte]
        unfold Visit.unread at hopened
        cases hf : v.field? with
        | none =>
            simp only [hf] at hopened
            rw [if_pos rfl]
            omega
        | some field =>
            simp only [hf] at hopened
            rw [if_neg (Option.some_ne_none field)]
            omega

/-- A nested record that is walked through twice, and behind it one that is left at its second
    clause, after a first walk through it. -/
def brokenInside : Record :=
  .ofFields
    [.mk "a" "nested|nested" (.record (.ofFields [.mk "n" "min:5" (.leaf (.int 3))])),
     .mk "b" "nested" (.record (.ofFields
      [.mk "c" "nested|other" (.record (.ofFields [.mk "s" "len:2" (.leaf (.str "ab"))])),
       .mk "d" "len:x" (.leaf (.str "never looked at"))]))]

open scoped Pattern

/-- The error arises one level down, so two records are left. -/
theorem log_of_failed_brokenInside :
    Config.standard.report brokenInside = .error (.unsupportedOperator "c" "other") ∧
      ∃ body, (Config.standard.validate brokenInside).log
          = .validating "validate" :: body
            ++ [.aborted (.unsupportedOperator "c" "other") 1,
              .aborted (.unsupportedOperator "c" "other") 0] ∧
        (Config.standard.validate brokenInside).log.countP Event.isAborted = 2 ∧
        (Config.standard.validate brokenInside).log.countP Event.isExtracted
          = (Config.standard.validate brokenInside).log.countP Event.isValidated + 2 := by
  have h : Config.standard.report brokenInside = .error (.unsupportedOperator "c" "other") := rfl
  have hv : (firstFailure? (brokenInside.visits .standard 0)).map
      (fun v => (v.depth, v.field?.isNone)) = some (1, false) := rfl
  obtain ⟨v, body, first, -, hlog, -, haborted, -, hopened⟩ := log_of_failed h
  rw [first, Option.map_some, Option.some.injEq, Prod.mk.injEq] at hv
  obtain ⟨hdepth, hfield⟩ := hv
  rw [hdepth] at hlog haborted hopened
  rw [if_neg (by intro hnone; rw [hnone] at hfield; cases hfield)] at hopened
  exact ⟨h, body, hlog, haborted, hopened⟩

end RecordRules
