import RecordRules.Pattern.Reader
import RecordRules.Proofs.Walk

/-!
# Errors do not depend on the data

An error says that a rule or a schema is broken, never the data. So two records of the same shape
fail alike: with the same names, rules and forms of values, the strings, integers and sequences in
them decide nothing but violations. The one thing of the data that a setup may look at is whether a
sequence is empty, and that only under `EmptySequence.reject`.

* `Leaf.SameShape`, `Record.SameShape` and `FieldsSameShape` say what two records have in common;
* `Event.uncounted` is an event without its number of violations;
* `Walk.Parallel` is what two walks have in common: the same events up to these numbers, and the
  same error or none. Walks in a row keep it (`Walk.Parallel.andThen`), and so does everything that
  is built from them.

**`sameShape_fails_alike`** says it of whole validations.
-/

namespace RecordRules

/-! ## 1. Records of the same shape -/

/-- Two leaves of the same form, with the same name of a type or the same mismatch. -/
inductive Leaf.SameShape (config : Config) : Leaf → Leaf → Prop where
  /-- Any two strings. -/
  | str (s t : String) : SameShape config (.str s) (.str t)
  /-- Any two integers. -/
  | int (m n : Int) : SameShape config (.int m) (.int n)
  /-- Any two sequences of strings; where empty ones are refused, both are empty or none is. -/
  | strSeq (ss ts : List String) (h : config.emptySequence = .reject → (ss = [] ↔ ts = [])) :
      SameShape config (.strSeq ss) (.strSeq ts)
  /-- Any two sequences of integers, likewise. -/
  | intSeq (ms ns : List Int) (h : config.emptySequence = .reject → (ms = [] ↔ ns = [])) :
      SameShape config (.intSeq ms) (.intSeq ns)
  /-- The same name of a type. -/
  | other (typeName : String) : SameShape config (.other typeName) (.other typeName)
  /-- The same mismatch. -/
  | mismatch (expected : FieldKind) (actual : String) :
      SameShape config (.mismatch expected actual) (.mismatch expected actual)

mutual

/-- Two records that cannot be read for the same reason, or with fields of the same shape. -/
inductive Record.SameShape (config : Config) : Record → Record → Prop where
  /-- The same reason. -/
  | unreadable (e : SetupError) : Record.SameShape config (.unreadable e) (.unreadable e)
  /-- Fields of the same shape. -/
  | ofFields {fs gs : List Field} (h : FieldsSameShape config fs gs) :
      Record.SameShape config (.ofFields fs) (.ofFields gs)

/-- Fields with the same names and rules in the same order, and values of the same shape. -/
inductive FieldsSameShape (config : Config) : List Field → List Field → Prop where
  /-- No fields. -/
  | nil : FieldsSameShape config [] []
  /-- Two leaves in front. -/
  | leaf (name rule : String) {v w : Leaf} {fs gs : List Field} (h : Leaf.SameShape config v w)
      (hs : FieldsSameShape config fs gs) :
      FieldsSameShape config (.mk name rule (.leaf v) :: fs) (.mk name rule (.leaf w) :: gs)
  /-- Two nested records in front. -/
  | record (name rule : String) {r s : Record} {fs gs : List Field}
      (h : Record.SameShape config r s) (hs : FieldsSameShape config fs gs) :
      FieldsSameShape config (.mk name rule (.record r) :: fs) (.mk name rule (.record s) :: gs)

end

/-! ## 2. Walks in parallel -/

/-- The event without its number of violations. -/
def Event.uncounted : Event → Event
  | .validated fields _ depth => .validated fields 0 depth
  | .finished _ => .finished 0
  | event => event

/-- The same error, or none at all. -/
def SameEnd {α β : Type} (x : Except SetupError α) (y : Except SetupError β) : Prop :=
  (∃ e, x = .error e ∧ y = .error e) ∨ ∃ a b, x = .ok a ∧ y = .ok b

namespace SameEnd

theorem error (α β : Type) (e : SetupError) :
    SameEnd (.error e : Except SetupError α) (.error e : Except SetupError β) :=
  Or.inl ⟨e, rfl, rfl⟩

theorem ok {α β : Type} (a : α) (b : β) : SameEnd (.ok a) (.ok b) := Or.inr ⟨a, b, rfl, rfl⟩

theorem map {α β γ δ : Type} {x : Except SetupError α} {y : Except SetupError β} (h : SameEnd x y)
    (f : α → γ) (g : β → δ) : SameEnd (x.map f) (y.map g) := by
  rcases h with ⟨e, rfl, rfl⟩ | ⟨a, b, rfl, rfl⟩
  · exact error γ δ e
  · exact ok (f a) (g b)

end SameEnd

namespace Walk

/-- Two walks that differ in violations only. -/
structure Parallel (w w' : Walk) : Prop where
  /-- The same events, up to numbers of violations. -/
  log : w.log.map Event.uncounted = w'.log.map Event.uncounted
  /-- The same error, or none at all. -/
  ends : SameEnd w.result w'.result

namespace Parallel

variable {w w' v v' : Walk}

theorem fail (e : SetupError) : Parallel (Walk.fail e) (Walk.fail e) where
  log := rfl
  ends := SameEnd.error _ _ e

theorem done : Parallel Walk.done Walk.done where
  log := rfl
  ends := SameEnd.ok [] []

theorem ofOutcome {x y : Except SetupError (List Violation)} (event : Event) (h : SameEnd x y) :
    Parallel ⟨[event], x⟩ ⟨[event], y⟩ where
  log := rfl
  ends := h

theorem after (event : Event) (h : Parallel w w') : Parallel (w.after event) (w'.after event) where
  log := by rw [log_after, log_after, List.map_cons, List.map_cons, h.log]
  ends := h.ends

/-- The second walks are both reached, or both are not. -/
theorem andThen (hw : Parallel w w') (hv : Parallel v v') :
    Parallel (w.andThen v) (w'.andThen v') := by
  rcases hw.ends with ⟨e, he, he'⟩ | ⟨vs, vs', hvs, hvs'⟩
  · rw [andThen_of_error he, andThen_of_error he']
    exact ⟨hw.log, SameEnd.error _ _ e⟩
  · rw [andThen_of_ok hvs, andThen_of_ok hvs']
    refine ⟨?_, hv.ends.map _ _⟩
    rw [List.map_append, List.map_append, hw.log, hv.log]

theorem perClause (field : String) (depth : Nat) (h : Parallel w w') : ∀ conditions,
    Parallel (Walk.perClause field depth w conditions) (Walk.perClause field depth w' conditions)
  | [] => done
  | c :: cs => by
      by_cases hc : c.operator = nestedOperator
      · rw [perClause_cons_nested hc, perClause_cons_nested hc]
        exact (h.after (.descending field depth)).andThen (perClause field depth h cs)
      · rw [perClause_cons_other hc, perClause_cons_other hc]
        exact fail _

theorem perRule (field rule : String) (depth : Nat) (h : Parallel w w') :
    Parallel (Walk.perRule field rule depth w) (Walk.perRule field rule depth w') := by
  cases hp : Rule.parse rule with
  | error e =>
      rw [perRule_of_error hp, perRule_of_error hp]
      exact fail e
  | ok conditions =>
      rw [perRule_of_ok hp, perRule_of_ok hp]
      exact h.perClause field depth conditions

/-- Closing a record shows the number of violations, and nothing else of them. -/
theorem ofRecord (fields depth : Nat) (h : Parallel w w') :
    Parallel (w.ofRecord fields depth) (w'.ofRecord fields depth) := by
  refine ⟨?_, by rw [result_ofRecord, result_ofRecord]; exact h.ends⟩
  rcases h.ends with ⟨e, he, he'⟩ | ⟨vs, vs', hvs, hvs'⟩
  · rw [log_ofRecord_of_error he, log_ofRecord_of_error he']
    rw [List.cons_append, List.cons_append, List.map_cons, List.map_cons, List.map_append,
      List.map_append, h.log]
  · rw [log_ofRecord_of_ok hvs, log_ofRecord_of_ok hvs']
    rw [List.cons_append, List.cons_append, List.map_cons, List.map_cons, List.map_append,
      List.map_append, h.log]
    rfl

end Parallel

end Walk

/-! ## 3. Leaves -/

section Leaves

variable (config : Config) (field rule : String)

/-- Reading and resolving a rule comes before any value. -/
theorem checkValues_sameEnd (C : Type) {V : Type} [ConstraintFamily C V] (xs ys : List V) :
    SameEnd (checkValues C field rule xs) (checkValues C field rule ys) := by
  unfold checkValues
  cases Rule.parse rule with
  | error e => exact SameEnd.error _ _ e
  | ok conditions =>
      simp only
      cases resolveAll C field conditions with
      | error e => exact SameEnd.error _ _ e
      -- only here do the values come into play, and evaluating them never fails
      | ok constraints => exact SameEnd.ok _ _

theorem refuses_eq {α : Type} {xs ys : List α}
    (h : config.emptySequence = .reject → (xs = [] ↔ ys = [])) :
    config.refuses xs = config.refuses ys := by
  unfold Config.refuses
  cases hpolicy : config.emptySequence with
  | vacuous =>
      show (xs.isEmpty && false) = (ys.isEmpty && false)
      rw [Bool.and_false, Bool.and_false]
  | reject =>
      have hempty : xs.isEmpty = ys.isEmpty := by
        rw [Bool.eq_iff_iff, List.isEmpty_iff, List.isEmpty_iff]
        exact h hpolicy
      rw [hempty]

theorem checkSequence_sameEnd (C : Type) {V : Type} [ConstraintFamily C V] {xs ys : List V}
    (h : config.emptySequence = .reject → (xs = [] ↔ ys = [])) :
    SameEnd (config.checkSequence C field rule xs) (config.checkSequence C field rule ys) := by
  unfold Config.checkSequence
  rw [refuses_eq config h]
  rcases checkValues_sameEnd field rule C xs ys with ⟨e, hx, hy⟩ | ⟨vs, ws, hx, hy⟩
  · rw [hx, hy]
    exact SameEnd.error _ _ e
  · rw [hx, hy]
    by_cases hr : config.refuses ys = true
    · simp only [hr, if_true]
      exact SameEnd.error _ _ _
    · simp only [hr]
      exact SameEnd.ok _ _

variable {config}

/-- **Leaves of the same shape fail alike.** -/
theorem Leaf.SameShape.outcome [PatternEngine] {v w : Leaf} (h : Leaf.SameShape config v w) :
    SameEnd (v.outcome config field rule) (w.outcome config field rule) := by
  cases h with
  | str s t => exact checkValues_sameEnd field rule StringConstraint [s] [t]
  | int m n => exact checkValues_sameEnd field rule IntConstraint [m] [n]
  | strSeq ss ts h => exact checkSequence_sameEnd config field rule StringConstraint h
  | intSeq ms ns h => exact checkSequence_sameEnd config field rule IntConstraint h
  | other typeName => exact SameEnd.error _ _ _
  | mismatch expected actual => exact SameEnd.error _ _ _

theorem Leaf.SameShape.kind_eq {v w : Leaf} (h : Leaf.SameShape config v w) : v.kind = w.kind := by
  cases h <;> rfl

end Leaves

/-! ## 4. Records -/

section Records

variable {config : Config}

theorem FieldsSameShape.length_eq : ∀ {fs gs : List Field}, FieldsSameShape config fs gs →
    fs.length = gs.length
  | _, _, .nil => rfl
  | _, _, .leaf _ _ _ hs => congrArg (· + 1) (length_eq hs)
  | _, _, .record _ _ _ hs => congrArg (· + 1) (length_eq hs)

variable [PatternEngine]

mutual

/-- **Walks through records of the same shape are parallel.** -/
theorem Record.SameShape.parallel (depth : Nat) : ∀ {r s : Record}, Record.SameShape config r s →
    Walk.Parallel (r.walk config depth) (s.walk config depth)
  | _, _, .unreadable e => ⟨rfl, SameEnd.error _ _ e⟩
  | _, _, .ofFields h => by
      rw [Record.walk_ofFields, Record.walk_ofFields, h.length_eq]
      exact (FieldsSameShape.parallel depth h).ofRecord _ depth

theorem FieldsSameShape.parallel (depth : Nat) : ∀ {fs gs : List Field},
    FieldsSameShape config fs gs →
      Walk.Parallel (walkFields config depth fs) (walkFields config depth gs)
  | _, _, .nil => Walk.Parallel.done
  | _, _, .leaf name rule h hs => by
      rw [walkFields_leaf, walkFields_leaf, h.kind_eq]
      exact (Walk.Parallel.ofOutcome _ (h.outcome name rule)).andThen
        (FieldsSameShape.parallel depth hs)
  | _, _, .record name rule h hs => by
      have ih := (Record.SameShape.parallel (depth + 1) h).perRule name rule (depth + 1)
      rw [walkFields_record, walkFields_record]
      exact (ih.after (.dispatching name .record rule depth)).andThen
        (FieldsSameShape.parallel depth hs)

end

/-- **Errors do not depend on the data.** Two records of the same shape end with the same error, or
    both with a report, and their logs differ in numbers of violations only. -/
theorem sameShape_fails_alike {r s : Record} (h : Record.SameShape config r s) :
    ((∃ e, config.report r = .error e ∧ config.report s = .error e) ∨
      (∃ a b, config.report r = .ok a ∧ config.report s = .ok b)) ∧
    (config.validate r).log.map Event.uncounted = (config.validate s).log.map Event.uncounted := by
  have hp := h.parallel 0
  refine ⟨?_, ?_⟩
  · rw [report_eq, report_eq]
    exact hp.ends.map _ _
  · rcases hp.ends with ⟨e, hr, hs⟩ | ⟨vs, ws, hr, hs⟩
    · rw [validate_of_error hr, validate_of_error hs]
      rw [List.map_cons, List.map_cons, hp.log]
    · rw [validate_of_ok hr, validate_of_ok hs]
      rw [List.cons_append, List.cons_append, List.map_cons, List.map_cons, List.map_append,
        List.map_append, hp.log]
      rfl

end Records

open scoped Pattern

/-- A sequence and a nested record with given data. -/
def sequenceAndText (codes : List Int) (text : String) : Record :=
  .ofFields
    [.mk "codes" "max:3" (.leaf (.intSeq codes)),
     .mk "inner" "nested|nested" (.record (.ofFields [.mk "s" "len:2" (.leaf (.str text))]))]

/-- Valid data and data that violates every rule, even with a longer sequence. -/
theorem sameShape_fails_alike_sequenceAndText :
    Record.SameShape .strict (sequenceAndText [1] "ab") (sequenceAndText [7, 9] "long") ∧
      ((∃ e, Config.strict.report (sequenceAndText [1] "ab") = .error e ∧
          Config.strict.report (sequenceAndText [7, 9] "long") = .error e) ∨
        (∃ a b, Config.strict.report (sequenceAndText [1] "ab") = .ok a ∧
          Config.strict.report (sequenceAndText [7, 9] "long") = .ok b)) ∧
      (Config.strict.validate (sequenceAndText [1] "ab")).log.map Event.uncounted
        = (Config.strict.validate (sequenceAndText [7, 9] "long")).log.map Event.uncounted := by
  have hcodes : Leaf.SameShape .strict (.intSeq [1]) (.intSeq [7, 9]) :=
    .intSeq _ _ fun _ => iff_of_false (List.cons_ne_nil 1 []) (List.cons_ne_nil 7 [9])
  have hinner : Record.SameShape .strict (.ofFields [.mk "s" "len:2" (.leaf (.str "ab"))])
      (.ofFields [.mk "s" "len:2" (.leaf (.str "long"))]) :=
    .ofFields (.leaf _ _ (.str _ _) .nil)
  have h : Record.SameShape .strict (sequenceAndText [1] "ab") (sequenceAndText [7, 9] "long") :=
    .ofFields (.leaf _ _ hcodes (.record _ _ hinner .nil))
  exact ⟨h, sameShape_fails_alike h⟩

end RecordRules
