import RecordRules.Proofs.Traversal
import RecordRules.Validate

/-!
# The two families of leaves

Strings and integers are checked in the same way, each by constraints of their own. What holds of
both is said once here, for a family of leaves: the values of the family, its constraints, the leaf
of a single value and the leaf of a sequence of values.

* `Family` with `Family.single` and `Family.sequence`; all other leaves take no conditions
  (`Leaf.family_cases`);
* `Rule.ResolvesTo` says of a rule that nothing is wrong with it. Then values are evaluated
  (`checkValues_eq_ok_iff`), and otherwise the error is the same for all values
  (`checkValues_of_unresolved`).

**`sequence_agrees_with_values`** compares the three ways to check values: as a sequence, one by
one, and outside of records.
-/

namespace RecordRules

/-! ## 1. Families -/

/-- A family of leaves. -/
inductive Family where
  /-- Strings. -/
  | string
  /-- Integers. -/
  | int
  deriving DecidableEq, Repr

namespace Family

/-- The values of a family. -/
def Value : Family → Type
  | .string => String
  | .int => Int

variable [PatternEngine]

/-- The constraints on these values. -/
def Constraint : Family → Type
  | .string => StringConstraint
  | .int => IntConstraint

instance (family : Family) : ConstraintFamily family.Constraint family.Value :=
  match family with
  | .string => inferInstanceAs (ConstraintFamily StringConstraint String)
  | .int => inferInstanceAs (ConstraintFamily IntConstraint Int)

/-- One value as a leaf. -/
def single : (family : Family) → family.Value → Leaf
  | .string, s => .str s
  | .int, n => .int n

/-- Any number of values as a leaf. -/
def sequence : (family : Family) → List family.Value → Leaf
  | .string, items => .strSeq items
  | .int, items => .intSeq items

variable (family : Family) (config : Config) (field rule : String)

theorem outcome_single (value : family.Value) :
    (family.single value).outcome config field rule
      = checkValues family.Constraint field rule [value] := by
  cases family <;> rfl

theorem outcome_sequence (values : List family.Value) :
    (family.sequence values).outcome config field rule
      = config.checkSequence family.Constraint field rule values := by
  cases family <;> rfl

end Family

/-- A leaf belongs to a family, or it takes no conditions. -/
theorem Leaf.family_cases (v : Leaf) :
    (∃ (family : Family) (value : family.Value), v = family.single value) ∨
    (∃ (family : Family) (values : List family.Value), v = family.sequence values) ∨
    (∃ typeName, v = .other typeName) ∨ ∃ expected actual, v = .mismatch expected actual := by
  cases v with
  | str s => exact Or.inl ⟨.string, s, rfl⟩
  | int n => exact Or.inl ⟨.int, n, rfl⟩
  | strSeq items => exact Or.inr (Or.inl ⟨.string, items, rfl⟩)
  | intSeq items => exact Or.inr (Or.inl ⟨.int, items, rfl⟩)
  | other typeName => exact Or.inr (Or.inr (Or.inl ⟨typeName, rfl⟩))
  | mismatch expected actual => exact Or.inr (Or.inr (Or.inr ⟨expected, actual, rfl⟩))

/-! ## 2. Rules with nothing wrong in them -/

section Checks

variable {C V : Type} [ConstraintFamily C V] {config : Config} {field rule : String}

variable (C) in
theorem resolveAll_eq_mapM (field : String) : ∀ conditions : List Condition,
    resolveAll C field conditions
      = conditions.mapM fun c => (resolve field c : Except SetupError C)
  | [] => rfl
  | c :: conditions => by
      rw [resolveAll, resolveAll_eq_mapM field conditions]
      cases hc : (resolve field c : Except SetupError C) with
      | error e => exact (mapM_cons_of_error hc conditions).symm
      | ok constraint => exact (mapM_cons_of_ok hc conditions).symm

variable (C) in
theorem checkValues_of_unreadable {e : SetupError} (h : Rule.parse rule = .error e)
    (values : List V) : checkValues C field rule values = .error e := by
  rw [checkValues, h]

variable (C) in
/-- With a rule that can be read, a check is what its constraints find. -/
theorem checkValues_of_parse {conditions : List Condition} (h : Rule.parse rule = .ok conditions)
    (values : List V) :
    checkValues C field rule values
      = (resolveAll C field conditions).map fun ks => evaluate field ks values := by
  rw [checkValues, h]
  cases hr : resolveAll C field conditions with
  | error e => simp only [hr]; rfl
  | ok ks => simp only [hr]; rfl

variable (C) in
/-- A check fails when its rule cannot be read or its conditions cannot be resolved. -/
theorem checkValues_eq_error_iff {e : SetupError} {values : List V} :
    checkValues C field rule values = .error e ↔
      Rule.parse rule = .error e ∨
        ∃ conditions, Rule.parse rule = .ok conditions ∧
          resolveAll C field conditions = .error e := by
  cases hp : Rule.parse rule with
  | error d => simp [checkValues_of_unreadable C hp]
  | ok conditions => simp [checkValues_of_parse C hp, map_eq_error_iff]

/-- The rule can be read, and its conditions are resolved into the constraints. -/
def Rule.ResolvesTo (field rule : String) (constraints : List C) : Prop :=
  ∃ conditions, Rule.parse rule = .ok conditions ∧
    resolveAll C field conditions = .ok constraints

/-- A check succeeds with the evaluation of the constraints that its rule comes to. -/
theorem checkValues_eq_ok_iff {values : List V} {us : List Violation} :
    checkValues C field rule values = .ok us ↔
      ∃ constraints : List C, Rule.ResolvesTo field rule constraints ∧
        us = evaluate field constraints values := by
  unfold Rule.ResolvesTo
  cases hp : Rule.parse rule with
  | error d => simp [checkValues_of_unreadable C hp]
  | ok conditions =>
      simp only [checkValues_of_parse C hp, Except.ok.injEq, exists_eq_left']
      cases resolveAll C field conditions with
      | error d => simp [Except.map]
      | ok constraints => simp [Except.map, eq_comm]

variable (C) in
/-- **What is wrong with a rule does not depend on the values.** -/
theorem checkValues_of_unresolved
    (h : ¬∃ constraints : List C, Rule.ResolvesTo field rule constraints) :
    ∃ e, ∀ values : List V, checkValues C field rule values = .error e := by
  cases hnil : checkValues C field rule ([] : List V) with
  | ok us =>
      obtain ⟨constraints, hconstraints, -⟩ := checkValues_eq_ok_iff.mp hnil
      exact absurd ⟨constraints, hconstraints⟩ h
  | error e =>
      exact ⟨e, fun values =>
        (checkValues_eq_error_iff C).mpr ((checkValues_eq_error_iff C).mp hnil)⟩

/-- A sequence is refused only when it is empty, and only under the strict policy. -/
theorem refuses_iff {items : List V} :
    config.refuses items = true ↔ items = [] ∧ config.emptySequence = .reject := by
  rw [Config.refuses, Bool.and_eq_true, List.isEmpty_iff, beq_iff_eq]

variable (C)

/-- A sequence that is not refused is checked like bare values. -/
theorem checkSequence_of_accepted {items : List V}
    (h : ¬(items = [] ∧ config.emptySequence = .reject)) :
    config.checkSequence C field rule items = checkValues C field rule items := by
  rw [← refuses_iff, Bool.not_eq_true] at h
  unfold Config.checkSequence
  cases checkValues C field rule items with
  | error e => rfl
  | ok us => simp only [h, Bool.false_eq_true, if_false]

/-- A sequence fails like bare values, and where it does not, it can still be refused. -/
theorem checkSequence_eq_error_iff {items : List V} {e : SetupError} :
    config.checkSequence C field rule items = .error e ↔
      checkValues C field rule items = .error e ∨
        (∃ us, checkValues C field rule items = .ok us) ∧
          (items = [] ∧ config.emptySequence = .reject) ∧ e = .emptySequence field := by
  unfold Config.checkSequence
  rw [← refuses_iff]
  cases checkValues C field rule items with
  | error d => simp
  | ok us => cases config.refuses items <;> simp [eq_comm]

/-- A sequence that is refused fails in any case. -/
theorem exists_error_of_refused (field rule : String) {items : List V}
    (h : items = [] ∧ config.emptySequence = .reject) :
    ∃ e, config.checkSequence C field rule items = .error e := by
  cases hc : checkValues C field rule items with
  | error e => exact ⟨e, (checkSequence_eq_error_iff C).mpr (Or.inl hc)⟩
  | ok us => exact ⟨_, (checkSequence_eq_error_iff C).mpr (Or.inr ⟨⟨us, hc⟩, h, rfl⟩)⟩

/-- A sequence that succeeds is checked like bare values. -/
theorem checkSequence_eq_ok {items : List V} {us : List Violation}
    (h : config.checkSequence C field rule items = .ok us) :
    checkValues C field rule items = .ok us := by
  by_cases hrefused : items = [] ∧ config.emptySequence = .reject
  · obtain ⟨e, he⟩ := exists_error_of_refused C field rule hrefused
    rw [he] at h
    cases h
  · rw [← checkSequence_of_accepted C hrefused, h]

end Checks

/-! ## 3. Sequences, single values and bare values -/

variable [PatternEngine]

/-- **A sequence is its elements in a row.** Unless it is empty and refused, a sequence is checked
    like bare values; where it is refused, an error of the check comes first and the emptiness after
    it. A single value is a sequence of one. A sequence with elements and a rule with nothing wrong
    in it has the violations of its elements, one element after the other; with any other rule all
    of them have one and the same error. -/
theorem sequence_agrees_with_values (family : Family) (config : Config) (field rule : String)
    (values : List family.Value) :
    (¬(values = [] ∧ config.emptySequence = .reject) →
      (family.sequence values).outcome config field rule
        = checkValues family.Constraint field rule values) ∧
    (values = [] ∧ config.emptySequence = .reject →
      (∀ e, checkValues family.Constraint field rule values = .error e →
        (family.sequence values).outcome config field rule = .error e) ∧
      (∀ us, checkValues family.Constraint field rule values = .ok us →
        (family.sequence values).outcome config field rule = .error (.emptySequence field))) ∧
    (∀ value, (family.single value).outcome config field rule
      = (family.sequence [value]).outcome config field rule) ∧
    (values ≠ [] →
      (∃ constraints : List family.Constraint, Rule.ResolvesTo field rule constraints) →
        ∃ parts : List (List Violation),
          values.map (fun value => (family.single value).outcome config field rule)
            = parts.map .ok ∧
          (family.sequence values).outcome config field rule = .ok parts.flatten) ∧
    (values ≠ [] →
      ¬(∃ constraints : List family.Constraint, Rule.ResolvesTo field rule constraints) →
        ∃ e, (family.sequence values).outcome config field rule = .error e ∧
          ∀ value, (family.single value).outcome config field rule = .error e) := by
  simp only [Family.outcome_single, Family.outcome_sequence]
  have haccepted : values ≠ [] → ¬(values = [] ∧ config.emptySequence = .reject) :=
    fun hne h => hne h.1
  refine ⟨checkSequence_of_accepted _, fun hrefused => ⟨fun e he => ?_, fun us hus => ?_⟩,
    fun value => ?_, fun hne hrule => ?_, fun hne hrule => ?_⟩
  · exact (checkSequence_eq_error_iff _).mpr (Or.inl he)
  · exact (checkSequence_eq_error_iff _).mpr (Or.inr ⟨⟨us, hus⟩, hrefused, rfl⟩)
  · exact (checkSequence_of_accepted _ fun h => List.cons_ne_nil value [] h.1).symm
  · obtain ⟨constraints, hresolved⟩ := hrule
    refine ⟨values.map (violationsOf field constraints), ?_, ?_⟩
    · rw [List.map_map]
      refine List.map_congr_left fun value _ => ?_
      rw [checkValues_eq_ok_iff.mpr ⟨constraints, hresolved, rfl⟩,
        evaluate_singleton]
      rfl
    · rw [checkSequence_of_accepted _ (haccepted hne),
        checkValues_eq_ok_iff.mpr ⟨constraints, hresolved, rfl⟩, evaluate, List.flatMap_def]
  · obtain ⟨e, he⟩ := checkValues_of_unresolved family.Constraint hrule
    refine ⟨e, ?_, fun value => he [value]⟩
    rw [checkSequence_of_accepted _ (haccepted hne), he]

end RecordRules
