import Mathlib.Algebra.BigOperators.Group.Finset.Basic
import Mathlib.Algebra.BigOperators.Ring.Finset
import RecordRules.Pattern.Reader
import RecordRules.Proofs.Log.Unwinding

/-!
# Records nested over and over

A nested record is walked through once for every clause of its rule, and so are the records nested
in it. With `k` clauses on every level and `n` levels the innermost record is walked through `k ^ n`
times. An error ends all of this in the first round.

* `Record.wrap` nests a record in records with one field each;
* `Record.walk_nest_of_ok`, `Record.walk_nest_of_error`: what one level adds to a walk;
* `Record.result_wrap_of_ok`, `Record.countP_wrap_of_ok` and their likes for an error: what any
  number of levels comes to, where events are counted by what is asked of them, level by level.

**`nesting_multiplies`** says it of whole validations.
-/

namespace RecordRules

/-! ## 1. Records in records -/

/-- A record nested in records with one field each, all under the same rule. The first name is that
    of the outermost field. -/
def Record.wrap (rule : String) (inner : Record) : List String → Record
  | [] => inner
  | name :: names => .single name rule (.record (wrap rule inner names))

/-- Whether a record is opened at the depth. -/
def Event.opensAt (depth : Nat) : Event → Bool
  | .extracted _ d => d = depth
  | _ => false

/-- Something asked of events that is the case of events of records alone. -/
structure Event.OfRecords (p : Event → Bool) : Prop where
  /-- Not of the first event. -/
  validating (key : String) : p (.validating key) = false
  /-- Not of a field. -/
  dispatching (name : String) (kind : FieldKind) (rule : String) (depth : Nat) :
    p (.dispatching name kind rule depth) = false
  /-- Not of a descent. -/
  descending (name : String) (depth : Nat) : p (.descending name depth) = false
  /-- Not of the last event. -/
  finished (violations : Nat) : p (.finished violations) = false

/-- One when it is the case of the event, and otherwise nothing. -/
def Event.hits (p : Event → Bool) (event : Event) : Nat := if p event = true then 1 else 0

section Levels

variable {config : Config} {name rule : String} {conditions : List Condition} {inner : Record}
  {depth : Nat} {p : Event → Bool}

theorem Event.hits_of_false {event : Event} (h : p event = false) : event.hits p = 0 := by
  rw [hits, h]
  rfl

theorem countP_cons_hits (event : Event) (log : List Event) :
    (event :: log).countP p = Event.hits p event + log.countP p := by
  rw [List.countP_cons, Nat.add_comm]
  rfl

variable [PatternEngine]

/-- The events around the walk of a whole validation are none of records. -/
theorem countP_validate (config : Config) (record : Record) (hp : Event.OfRecords p) :
    (config.validate record).log.countP p = (record.walk config 0).log.countP p := by
  have hfirst : Event.hits p (.validating config.annotationKey) = 0 :=
    Event.hits_of_false (hp.validating _)
  cases h : (record.walk config 0).result with
  | error e => rw [validate_of_error h, countP_cons_hits, hfirst, Nat.zero_add]
  | ok vs =>
      have hlast : Event.hits p (.finished vs.length) = 0 := Event.hits_of_false (hp.finished _)
      rw [validate_of_ok h, List.countP_append, countP_cons_hits, countP_cons_hits, hfirst, hlast,
        List.countP_nil, Nat.zero_add, Nat.add_zero]

variable (hrule : Rule.parse rule = .ok conditions)
  (hops : ∀ c ∈ conditions, c.operator = nestedOperator)

include hrule hops

variable (name) in
/-- One level around a record that succeeds. -/
theorem Record.walk_nest_of_ok {vs : List Violation}
    (h : (inner.walk config (depth + 1)).result = .ok vs) :
    ((Record.single name rule (.record inner)).walk config depth).result
        = .ok (List.replicate conditions.length vs).flatten ∧
      ∃ violations, ((Record.single name rule (.record inner)).walk config depth).log
        = .extracted 1 depth :: .dispatching name .record rule depth ::
            (List.replicate conditions.length
              (.descending name (depth + 1) :: (inner.walk config (depth + 1)).log)).flatten
          ++ [.validated 1 violations depth] := by
  have hfield : (Field.mk name rule (.record inner)).walk config depth
      = ⟨.dispatching name .record rule depth ::
          (List.replicate conditions.length
            (.descending name (depth + 1) :: (inner.walk config (depth + 1)).log)).flatten,
        .ok (List.replicate conditions.length vs).flatten⟩ := by
    rw [Field.walk_record, Walk.perRule_of_ok hrule, Walk.perClause_repeats h hops]
    rfl
  rw [Record.walk_single, hfield]
  exact ⟨rfl, _, rfl⟩

variable (name) in
/-- One level around a record that fails. -/
theorem Record.walk_nest_of_error {e : SetupError}
    (h : (inner.walk config (depth + 1)).result = .error e) :
    (Record.single name rule (.record inner)).walk config depth
      = ⟨.extracted 1 depth :: .dispatching name .record rule depth ::
          .descending name (depth + 1) :: (inner.walk config (depth + 1)).log
          ++ [.aborted e depth], .error e⟩ := by
  -- the first round fails, so the other clauses are not reached
  obtain ⟨c, cs, rfl⟩ := List.exists_cons_of_ne_nil (Rule.ne_nil_of_parse hrule)
  have hfield : (Field.mk name rule (.record inner)).walk config depth
      = ⟨.dispatching name .record rule depth :: .descending name (depth + 1) ::
          (inner.walk config (depth + 1)).log, .error e⟩ := by
    rw [Field.walk_record, Walk.perRule_of_ok hrule,
      Walk.perClause_cons_nested (hops c List.mem_cons_self),
      Walk.andThen_of_error ((Walk.result_after _ _).trans h)]
    rfl
  rw [Record.walk_single, hfield]
  rfl

variable (name) in
/-- **The events of one level around a record that succeeds**: its own, and those inside once for
    every clause. -/
theorem Record.countP_nest_of_ok {vs : List Violation} (hp : Event.OfRecords p)
    (hvalidated : ∀ fields violations d, p (.validated fields violations d) = false)
    (h : (inner.walk config (depth + 1)).result = .ok vs) :
    ((Record.single name rule (.record inner)).walk config depth).log.countP p
      = Event.hits p (.extracted 1 depth)
        + conditions.length * (inner.walk config (depth + 1)).log.countP p := by
  obtain ⟨-, violations, hlog⟩ := walk_nest_of_ok name hrule hops h
  have hround : (Event.descending name (depth + 1) :: (inner.walk config (depth + 1)).log).countP p
      = (inner.walk config (depth + 1)).log.countP p := by
    rw [countP_cons_hits, Event.hits_of_false (hp.descending _ _), Nat.zero_add]
  rw [hlog, List.countP_append, countP_cons_hits, countP_cons_hits, countP_cons_hits,
    Event.hits_of_false (hp.dispatching _ _ _ _), Event.hits_of_false (hvalidated _ _ _),
    List.countP_flatten, List.map_replicate, List.sum_replicate_nat, hround, List.countP_nil]
  omega

variable (name) in
/-- **The events of one level around a record that fails**: its own, and those inside once. -/
theorem Record.countP_nest_of_error {e : SetupError} (hp : Event.OfRecords p)
    (h : (inner.walk config (depth + 1)).result = .error e) :
    ((Record.single name rule (.record inner)).walk config depth).log.countP p
      = Event.hits p (.extracted 1 depth) + Event.hits p (.aborted e depth)
        + (inner.walk config (depth + 1)).log.countP p := by
  rw [walk_nest_of_error name hrule hops h, List.countP_append, countP_cons_hits, countP_cons_hits,
    countP_cons_hits, countP_cons_hits, Event.hits_of_false (hp.dispatching _ _ _ _),
    Event.hits_of_false (hp.descending _ _), List.countP_nil]
  omega

end Levels

/-! ## 2. Any number of levels -/

theorem replicate_mul_flatten {α : Type*} (k m : Nat) (l : List α) :
    (List.replicate (k * m) l).flatten
      = (List.replicate k (List.replicate m l).flatten).flatten := by
  induction k with
  | zero => simp
  | succ k ih =>
    rw [Nat.succ_mul, Nat.add_comm, List.replicate_add, List.flatten_append, ih,
      List.replicate_succ, List.flatten_cons]

/-- A sum over powers in which the outermost level is taken for itself. -/
theorem sum_range_levels (k n depth : Nat) (f : Nat → Nat) :
    ∑ i ∈ Finset.range (n + 1), k ^ i * f (depth + i)
      = f depth + k * ∑ i ∈ Finset.range n, k ^ i * f (depth + 1 + i) := by
  have hlevel : ∀ i, k ^ (i + 1) * f (depth + (i + 1)) = k * (k ^ i * f (depth + 1 + i)) := by
    intro i
    rw [Nat.pow_succ', Nat.mul_assoc, Nat.add_right_comm, Nat.add_assoc]
  rw [Finset.sum_range_succ', Finset.mul_sum, Nat.add_comm]
  simp only [hlevel, Nat.pow_zero, Nat.one_mul, Nat.add_zero]

section Leaf

variable [PatternEngine] {config : Config} {name rule : String} {v : Leaf} {p : Event → Bool}

/-- The walk through a record with one leaf that passes. -/
theorem Record.walk_leaf_of_ok {vs : List Violation} (h : v.outcome config name rule = .ok vs)
    (depth : Nat) :
    (Record.single name rule (.leaf v)).walk config depth
      = ⟨[.extracted 1 depth, .dispatching name v.kind rule depth, .validated 1 vs.length depth],
        .ok vs⟩ := by
  have hfield : (Field.mk name rule (.leaf v)).walk config depth
      = ⟨[.dispatching name v.kind rule depth], .ok vs⟩ := by
    rw [← h]
    rfl
  rw [Record.walk_single, hfield]
  rfl

/-- The walk through a record with one leaf that fails. -/
theorem Record.walk_leaf_of_error {e : SetupError} (h : v.outcome config name rule = .error e)
    (depth : Nat) :
    (Record.single name rule (.leaf v)).walk config depth
      = ⟨[.extracted 1 depth, .dispatching name v.kind rule depth, .aborted e depth],
        .error e⟩ := by
  have hfield : (Field.mk name rule (.leaf v)).walk config depth
      = ⟨[.dispatching name v.kind rule depth], .error e⟩ := by
    rw [← h]
    rfl
  rw [Record.walk_single, hfield]
  rfl

variable {outer : String} {conditions : List Condition}
  (hrule : Rule.parse outer = .ok conditions)
  (hops : ∀ c ∈ conditions, c.operator = nestedOperator)

include hrule hops

/-- **A leaf that passes is walked through in powers of the number of clauses**, and so are its
    violations. -/
theorem Record.result_wrap_of_ok {vs : List Violation} (h : v.outcome config name rule = .ok vs) :
    ∀ (names : List String) (depth : Nat),
      (((Record.single name rule (.leaf v)).wrap outer names).walk config depth).result
        = .ok (List.replicate (conditions.length ^ names.length) vs).flatten
  | [], depth => by
      rw [wrap, walk_leaf_of_ok h, List.length_nil, Nat.pow_zero, List.replicate_one]
      simp
  | first :: names, depth => by
      have ih := result_wrap_of_ok h names (depth + 1)
      rw [wrap, (walk_nest_of_ok first hrule hops ih).1, ← replicate_mul_flatten, List.length_cons,
        Nat.pow_succ']

/-- A leaf that fails is all there is to it. -/
theorem Record.result_wrap_of_error {e : SetupError} (h : v.outcome config name rule = .error e) :
    ∀ (names : List String) (depth : Nat),
      (((Record.single name rule (.leaf v)).wrap outer names).walk config depth).result = .error e
  | [], depth => by rw [wrap, walk_leaf_of_error h]
  | first :: names, depth => by
      have ih := result_wrap_of_error h names (depth + 1)
      rw [wrap, walk_nest_of_error first hrule hops ih]

/-- **Events around a leaf that passes**: the records at each level are opened once for every round
    through that level. -/
theorem Record.countP_wrap_of_ok {vs : List Violation} (h : v.outcome config name rule = .ok vs)
    (hp : Event.OfRecords p)
    (hvalidated : ∀ fields violations d, p (.validated fields violations d) = false) :
    ∀ (names : List String) (depth : Nat),
      (((Record.single name rule (.leaf v)).wrap outer names).walk config depth).log.countP p
        = ∑ i ∈ Finset.range (names.length + 1),
            conditions.length ^ i * Event.hits p (.extracted 1 (depth + i))
  | [], depth => by
      rw [wrap, walk_leaf_of_ok h, countP_cons_hits, countP_cons_hits, countP_cons_hits,
        List.countP_nil, Event.hits_of_false (hp.dispatching _ _ _ _),
        Event.hits_of_false (hvalidated _ _ _)]
      simp
  | first :: names, depth => by
      have hinner := result_wrap_of_ok hrule hops h names (depth + 1)
      have ih := countP_wrap_of_ok h hp hvalidated names (depth + 1)
      have hlevels := sum_range_levels conditions.length (names.length + 1) depth
        fun d => Event.hits p (.extracted 1 d)
      rw [wrap, countP_nest_of_ok first hrule hops hp hvalidated hinner, ih]
      exact hlevels.symm

/-- **Events around a leaf that fails**: every level is opened and left in its first round. -/
theorem Record.countP_wrap_of_error {e : SetupError} (h : v.outcome config name rule = .error e)
    (hp : Event.OfRecords p) : ∀ (names : List String) (depth : Nat),
      (((Record.single name rule (.leaf v)).wrap outer names).walk config depth).log.countP p
        = ∑ i ∈ Finset.range (names.length + 1),
            (Event.hits p (.extracted 1 (depth + i)) + Event.hits p (.aborted e (depth + i)))
  | [], depth => by
      rw [wrap, walk_leaf_of_error h, countP_cons_hits, countP_cons_hits, countP_cons_hits,
        List.countP_nil, Event.hits_of_false (hp.dispatching _ _ _ _)]
      simp
  | first :: names, depth => by
      have hinner := result_wrap_of_error hrule hops h names (depth + 1)
      have ih := countP_wrap_of_error h hp names (depth + 1)
      -- every level is opened once, as if the rule had one clause
      have hlevels := sum_range_levels 1 (names.length + 1) depth
        fun d => Event.hits p (.extracted 1 d) + Event.hits p (.aborted e d)
      simp only [Nat.one_pow, Nat.one_mul] at hlevels
      rw [wrap, countP_nest_of_error first hrule hops hp hinner, ih]
      exact hlevels.symm

end Leaf

/-! ## 3. Whole validations -/

namespace Event.OfRecords

theorem isExtracted : OfRecords Event.isExtracted where
  validating _ := rfl
  dispatching _ _ _ _ := rfl
  descending _ _ := rfl
  finished _ := rfl

theorem isValidated : OfRecords Event.isValidated where
  validating _ := rfl
  dispatching _ _ _ _ := rfl
  descending _ _ := rfl
  finished _ := rfl

theorem isAborted : OfRecords Event.isAborted where
  validating _ := rfl
  dispatching _ _ _ _ := rfl
  descending _ _ := rfl
  finished _ := rfl

theorem opensAt (depth : Nat) : OfRecords (Event.opensAt depth) where
  validating _ := rfl
  dispatching _ _ _ _ := rfl
  descending _ _ := rfl
  finished _ := rfl

end Event.OfRecords

/-- Of the records at all levels those at one level are left. -/
theorem sum_opensAt {levels depth : Nat} (hdepth : depth ≤ levels) (f : Nat → Nat) :
    ∑ i ∈ Finset.range (levels + 1), f i * Event.hits (Event.opensAt depth) (.extracted 1 i)
      = f depth := by
  have hmem : depth ∈ Finset.range (levels + 1) := Finset.mem_range.mpr (Nat.lt_succ_of_le hdepth)
  have hothers : ∀ i ∈ Finset.range (levels + 1), i ≠ depth →
      f i * Event.hits (Event.opensAt depth) (.extracted 1 i) = 0 := by
    intro i _ hi
    rw [Event.hits_of_false (decide_eq_false hi), Nat.mul_zero]
  have hhit : Event.hits (Event.opensAt depth) (.extracted 1 depth) = 1 :=
    if_pos (decide_eq_true rfl)
  rw [Finset.sum_eq_single_of_mem depth hmem hothers, hhit, Nat.mul_one]

/-- **Nesting multiplies.** A record with one leaf lies in a row of records with one field each, and
    the rule of all these fields has `k` clauses, all with the one operator. If the leaf alone has a
    report, the whole has that report `k ^ n` times over, where `n` is the number of records around
    the leaf, and opens `k ^ i` records at each depth `i`. If the leaf has an error, so does the
    whole: at each depth one record is opened and left again, and none comes to its end. -/
theorem nesting_multiplies [PatternEngine] (config : Config) {outer : String}
    {conditions : List Condition} (hrule : Rule.parse outer = .ok conditions)
    (hops : ∀ c ∈ conditions, c.operator = nestedOperator)
    (names : List String) (name rule : String) (v : Leaf) :
    1 ≤ conditions.length ∧
    (∀ report, config.report (.single name rule (.leaf v)) = .ok report →
      config.report ((Record.single name rule (.leaf v)).wrap outer names)
          = .ok ⟨(List.replicate (conditions.length ^ names.length) report.violations).flatten⟩ ∧
      (config.validate ((Record.single name rule (.leaf v)).wrap outer names)).log.countP
          Event.isExtracted
        = ∑ i ∈ Finset.range (names.length + 1), conditions.length ^ i ∧
      ∀ i ≤ names.length,
        (config.validate ((Record.single name rule (.leaf v)).wrap outer names)).log.countP
          (Event.opensAt i) = conditions.length ^ i) ∧
    (∀ e, config.report (.single name rule (.leaf v)) = .error e →
      config.report ((Record.single name rule (.leaf v)).wrap outer names) = .error e ∧
      (config.validate ((Record.single name rule (.leaf v)).wrap outer names)).log.countP
          Event.isExtracted = names.length + 1 ∧
      (∀ i ≤ names.length,
        (config.validate ((Record.single name rule (.leaf v)).wrap outer names)).log.countP
          (Event.opensAt i) = 1) ∧
      (config.validate ((Record.single name rule (.leaf v)).wrap outer names)).log.countP
          Event.isValidated = 0 ∧
      (config.validate ((Record.single name rule (.leaf v)).wrap outer names)).log.countP
          Event.isAborted = names.length + 1) := by
  have hne : conditions ≠ [] := Rule.ne_nil_of_parse hrule
  refine ⟨List.length_pos_iff.mpr hne, ?_, ?_⟩
  · intro report hreport
    have hleaf : v.outcome config name rule = .ok report.violations := by
      rw [report_eq_ok, Record.walk_single, Walk.result_ofRecord] at hreport
      exact hreport
    refine ⟨?_, ?_, ?_⟩
    · rw [report_eq_ok]
      exact Record.result_wrap_of_ok hrule hops hleaf names 0
    · rw [countP_validate _ _ .isExtracted,
        Record.countP_wrap_of_ok hrule hops hleaf .isExtracted (fun _ _ _ => rfl)]
      simp [Event.hits, Event.isExtracted]
    · intro i hi
      rw [countP_validate _ _ (.opensAt i),
        Record.countP_wrap_of_ok hrule hops hleaf (.opensAt i) (fun _ _ _ => rfl)]
      simp only [Nat.zero_add]
      exact sum_opensAt hi _
  · intro e he
    have hleaf : v.outcome config name rule = .error e := by
      rw [report_eq_error, Record.walk_single, Walk.result_ofRecord] at he
      exact he
    have hcount : ∀ {p : Event → Bool}, Event.OfRecords p →
        (config.validate ((Record.single name rule (.leaf v)).wrap outer names)).log.countP p
          = ∑ i ∈ Finset.range (names.length + 1),
              (Event.hits p (.extracted 1 i) + Event.hits p (.aborted e i)) := by
      intro p hp
      rw [countP_validate _ _ hp, Record.countP_wrap_of_error hrule hops hleaf hp]
      simp only [Nat.zero_add]
    refine ⟨?_, ?_, ?_, ?_, ?_⟩
    · rw [report_eq_error]
      exact Record.result_wrap_of_error hrule hops hleaf names 0
    · rw [hcount .isExtracted]
      simp [Event.hits, Event.isExtracted]
    · intro i hi
      have hone := sum_opensAt hi fun _ => 1
      rw [hcount (.opensAt i)]
      simpa [Event.hits, Event.opensAt] using hone
    · rw [hcount .isValidated]
      simp [Event.hits, Event.isValidated]
    · rw [hcount .isAborted]
      simp [Event.hits, Event.isAborted]

open scoped Pattern

/-- Two clauses on three levels give eight copies of one violation in fifteen records; with an error
    four records are opened. -/
theorem nesting_multiplies_threeLevels :
    Rule.parse "nested|nested:x" = .ok [⟨"nested", ""⟩, ⟨"nested", "x"⟩] ∧
      Config.standard.report
          ((Record.single "n" "min:5" (.leaf (.int 3))).wrap "nested|nested:x" ["a", "b", "c"])
        = .ok ⟨List.replicate 8 ⟨"n", .intMin⟩⟩ ∧
      (Config.standard.validate ((Record.single "n" "min:5" (.leaf (.int 3))).wrap
        "nested|nested:x" ["a", "b", "c"])).log.countP Event.isExtracted = 15 ∧
      Config.standard.report
          ((Record.single "s" "min:5" (.leaf (.str "ab"))).wrap "nested|nested:x" ["a", "b", "c"])
        = .error (.unsupportedOperator "s" "min") ∧
      (Config.standard.validate ((Record.single "s" "min:5" (.leaf (.str "ab"))).wrap
        "nested|nested:x" ["a", "b", "c"])).log.countP Event.isAborted = 4 := by
  have hrule : Rule.parse "nested|nested:x" = .ok [⟨"nested", ""⟩, ⟨"nested", "x"⟩] := rfl
  have hops : ∀ c ∈ [Condition.mk "nested" "", ⟨"nested", "x"⟩], c.operator = nestedOperator := by
    decide
  have hok : Config.standard.report (.single "n" "min:5" (.leaf (.int 3)))
      = .ok ⟨[⟨"n", .intMin⟩]⟩ := rfl
  have herror : Config.standard.report (.single "s" "min:5" (.leaf (.str "ab")))
      = .error (.unsupportedOperator "s" "min") := rfl
  obtain ⟨hreport, hextracted, -⟩ := (nesting_multiplies .standard hrule hops ["a", "b", "c"]
    "n" "min:5" (.int 3)).2.1 _ hok
  obtain ⟨hfailed, -, -, -, haborted⟩ := (nesting_multiplies .standard hrule hops ["a", "b", "c"]
    "s" "min:5" (.str "ab")).2.2 _ herror
  exact ⟨hrule, hreport, hextracted, hfailed, haborted⟩

end RecordRules
