import RecordRules.Proofs.Rule.Faults

/-!
# What leaves come to

A leaf comes to violations or to an error. What either says about where it came from is said here,
for all forms of leaves at once:

* **`Leaf.forall_field_of_outcome`**: every violation of a leaf carries the name of its field;
* **`Leaf.isAbout_of_outcome`**: so does every error of a leaf, except that of a rule that cannot be
  read, which shows the rule.
-/

namespace RecordRules

/-! ## 1. Violations carry the name of their field -/

section Violations

variable (C : Type) {V : Type} [ConstraintFamily C V] {config : Config} {field rule : String}
  {us : List Violation}

theorem forall_field_evaluate (constraints : List C) (values : List V) :
    ∀ u ∈ evaluate field constraints values, u.field = field := by
  intro u hu
  obtain ⟨value, -, hvalue⟩ := List.mem_flatMap.mp hu
  obtain ⟨c, -, hc⟩ := List.mem_filterMap.mp hvalue
  obtain ⟨kind, -, rfl⟩ := Option.map_eq_some_iff.mp hc
  rfl

theorem forall_field_checkValues {values : List V}
    (h : checkValues C field rule values = .ok us) : ∀ u ∈ us, u.field = field := by
  obtain ⟨constraints, -, rfl⟩ := checkValues_eq_ok_iff.mp h
  exact forall_field_evaluate C constraints values

/-- **The violations of a leaf carry its name.** -/
theorem Leaf.forall_field_of_outcome [PatternEngine] {v : Leaf}
    (h : v.outcome config field rule = .ok us) :
    ∀ u ∈ us, u.field = field := by
  rcases v.family_cases with ⟨family, value, rfl⟩ | ⟨family, values, rfl⟩ | ⟨typeName, rfl⟩ |
    ⟨expected, actual, rfl⟩
  · rw [Family.outcome_single] at h
    exact forall_field_checkValues family.Constraint h
  · rw [Family.outcome_sequence] at h
    exact forall_field_checkValues family.Constraint (checkSequence_eq_ok family.Constraint h)
  · cases h
  · cases h

end Violations

/-! ## 2. Errors carry the name of their field -/

/-- An error about a field or about its rule. -/
def SetupError.IsAbout (field rule : String) (e : SetupError) : Prop :=
  e.field? = some field ∨ ∃ clause, e = .malformedClause rule clause

section Errors

variable {config : Config} {field rule : String} {family : Family} {e : SetupError}

theorem Rule.parse_eq_error (h : Rule.parse rule = .error e) :
    ∃ clause, e = .malformedClause rule clause := by
  obtain ⟨_, clause, _, -, -, -, he⟩ := Rule.parse_eq_error_iff.mp h
  exact ⟨String.ofList clause, he⟩

variable [PatternEngine]

theorem Condition.Fault.field?_eq {c : Condition} (h : c.Fault field family e) :
    e.field? = some field := by
  cases h <;> rfl

theorem Rule.Fault.isAbout (h : Rule.Fault field rule family e) : e.IsAbout field rule := by
  cases h with
  | malformed => exact Or.inr ⟨_, rfl⟩
  | unresolved _ _ hc => exact Or.inl hc.field?_eq

/-- **Every error of a leaf is about its field or about its rule.** -/
theorem Leaf.isAbout_of_outcome {v : Leaf} (h : v.outcome config field rule = .error e) :
    e.IsAbout field rule := by
  cases Leaf.outcome_eq_error_iff.mp h with
  | other | mismatch | empty => exact Or.inl rfl
  | rule _ h => exact h.isAbout

end Errors

end RecordRules
