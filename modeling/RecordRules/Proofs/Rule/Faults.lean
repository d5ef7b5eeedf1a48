import RecordRules.Proofs.Families
import RecordRules.Proofs.Numeral
import RecordRules.Proofs.Rule.Spelling

/-!
# What is wrong with a leaf

A rule can have many things wrong with it at once, and a leaf shows only one of them. Which one is
said here without the check: first the clauses are looked at for their form, then the conditions
that they spell one by one, each for its operator and its operand, and the emptiness of a sequence
comes last.

* `IntConstraint.readOperand_eq_error_iff`, `IntConstraint.readOperands_eq_error_iff`: an operand
  denotes an integer or is faulty, and in a list the first faulty part decides;
* `Condition.Fault` is what is wrong with one condition, `Rule.Fault` what is wrong with a rule, and
  `Leaf.Fault` what is wrong with a leaf under a rule;
* `Condition.resolve_eq_error_iff`, `checkValues_eq_error_iff_fault`, `Leaf.outcome_eq_error_iff`:
  each of them is the error, and there is no other error.

**`Leaf.outcome_iff_fault`** says it of leaves of all forms.
-/

namespace RecordRules

/-! ## 1. Operands that are integers -/

theorem readInteger_eq_error_iff {text : String} {fault : IntegerFault} :
    readInteger text = .error fault ↔ IntegerRange.signed.Faulty text.toList fault :=
  @IntegerRange.read_eq_error_iff .signed text fault

theorem readNatural_eq_error_iff {text : String} {fault : IntegerFault} :
    readNatural text = .error fault ↔ IntegerRange.unsigned.Faulty text.toList fault := by
  rw [← IntegerRange.read_eq_error_iff]
  show readNatural text = .error fault ↔ (readNatural text).map Int.ofNat = .error fault
  exact map_eq_error_iff.symm

namespace IntConstraint

variable {field : String} {c : Condition}

theorem readOperand_eq_ok_iff {operand : String} {n : Int} :
    readOperand field c operand = .ok n ↔ IntegerRange.signed.Denotes operand.toList n := by
  rw [← IntegerRange.read_eq_ok_iff, readOperand]
  show (readInteger operand).mapError _ = .ok n ↔ readInteger operand = .ok n
  cases readInteger operand with
  | error fault => exact ⟨fun h => (by cases h), fun h => (by cases h)⟩
  | ok m => rw [Except.mapError, Except.ok.injEq, Except.ok.injEq]

theorem readOperand_eq_error_iff {operand : String} {e : SetupError} :
    readOperand field c operand = .error e ↔
      ∃ fault, IntegerRange.signed.Faulty operand.toList fault ∧
        e = .badOperand field c.operator operand fault := by
  simp only [← readInteger_eq_error_iff]
  unfold readOperand
  cases readInteger operand with
  | ok n => exact ⟨fun h => (by cases h), fun ⟨_, h, _⟩ => (by cases h)⟩
  | error fault =>
      constructor
      · intro h
        cases h
        exact ⟨fault, rfl, rfl⟩
      · rintro ⟨_, h, rfl⟩
        cases h
        rfl

theorem readOperands_eq_mapM : ∀ operands : List String,
    readOperands field c operands = operands.mapM (readOperand field c)
  | [] => rfl
  | operand :: operands => by
      rw [readOperands, readOperands_eq_mapM operands]
      cases ho : readOperand field c operand with
      | error e => exact (mapM_cons_of_error ho operands).symm
      | ok n => exact (mapM_cons_of_ok ho operands).symm

/-- The members of a list are the integers that its parts denote. -/
theorem readOperands_eq_ok_iff {ns : List Int} :
    readOperands field c c.members = .ok ns ↔
      ∃ parts, Text.PartsOf ',' c.operand.toList parts ∧
        List.Forall₂ IntegerRange.signed.Denotes parts ns := by
  simp only [readOperands_eq_mapM, mapM_eq_ok_iff, readOperand_eq_ok_iff, Condition.members,
    List.forall₂_map_left_iff, String.toList_ofList, Text.partsOf_iff, exists_eq_left']

/-- The first part that denotes no integer decides what is wrong with a list. -/
theorem readOperands_eq_error_iff {e : SetupError} :
    readOperands field c c.members = .error e ↔
      ∃ front part back fault, Text.PartsOf ',' c.operand.toList (front ++ part :: back) ∧
        (∀ p ∈ front, ∃ n, IntegerRange.signed.Denotes p n) ∧
        IntegerRange.signed.Faulty part fault ∧
        e = .badOperand field c.operator (String.ofList part) fault := by
  rw [readOperands_eq_mapM, Condition.members, List.mapM_map, mapM_eq_error_iff]
  simp only [Function.comp_apply, readOperand_eq_error_iff, readOperand_eq_ok_iff,
    Text.partsOf_iff, String.toList_ofList]
  constructor
  · rintro ⟨front, part, back, hparts, hfront, fault, hpart, he⟩
    exact ⟨front, part, back, fault, hparts, hfront, hpart, he⟩
  · rintro ⟨front, part, back, fault, hparts, hfront, hpart, he⟩
    exact ⟨front, part, back, hparts, hfront, fault, hpart, he⟩

end IntConstraint

/-! ## 2. Conditions -/

/-- The operators of a family. -/
def Family.operators : Family → List String
  | .string => ["len", "regexp", "in"]
  | .int => ["min", "max", "in"]

theorem Family.not_mem_operators_string {operator : String} :
    operator ∉ Family.string.operators ↔
      operator ≠ "len" ∧ operator ≠ "regexp" ∧ operator ≠ "in" := by
  simp [operators]

theorem Family.not_mem_operators_int {operator : String} :
    operator ∉ Family.int.operators ↔
      operator ≠ "min" ∧ operator ≠ "max" ∧ operator ≠ "in" := by
  simp [operators]

section Conditions

variable [PatternEngine]

/-- What is wrong with a condition on a field of a family. -/
inductive Condition.Fault (field : String) (c : Condition) : Family → SetupError → Prop where
  /-- The operator is none of the family. -/
  | operator {family : Family} (h : c.operator ∉ family.operators) :
      Fault field c family (.unsupportedOperator field c.operator)
  /-- The operand must be a length. -/
  | length {fault : IntegerFault} (hoperator : c.operator = "len")
      (h : IntegerRange.unsigned.Faulty c.operand.toList fault) :
      Fault field c .string (.badOperand field "len" c.operand fault)
  /-- The operand must be a pattern, and the engine has a reason why it is none. -/
  | pattern {reason : String} (hoperator : c.operator = "regexp")
      (h : PatternEngine.read c.operand = .error reason) :
      Fault field c .string (.badPattern field c.operand reason)
  /-- The operand must be an integer. -/
  | bound {fault : IntegerFault} (hoperator : c.operator = "min" ∨ c.operator = "max")
      (h : IntegerRange.signed.Faulty c.operand.toList fault) :
      Fault field c .int (.badOperand field c.operator c.operand fault)
  /-- All parts of the operand must be integers, and this is the first that is none. -/
  | member {front : List (List Char)} {part : List Char} {back : List (List Char)}
      {fault : IntegerFault} (hoperator : c.operator = "in")
      (hparts : Text.PartsOf ',' c.operand.toList (front ++ part :: back))
      (hfront : ∀ p ∈ front, ∃ n, IntegerRange.signed.Denotes p n)
      (h : IntegerRange.signed.Faulty part fault) :
      Fault field c .int (.badOperand field "in" (String.ofList part) fault)

variable {field : String} {c : Condition} {e : SetupError}

theorem StringConstraint.fault_of_error (h : StringConstraint.ofCondition field c = .error e) :
    c.Fault field .string e := by
  unfold StringConstraint.ofCondition at h
  split at h
  · rename_i hoperator
    cases hn : readNatural c.operand with
    | ok n => rw [hn] at h; cases h
    | error fault =>
        rw [hn, hoperator] at h
        cases h
        exact .length hoperator (readNatural_eq_error_iff.mp hn)
  · rename_i hoperator
    cases hp : PatternEngine.read c.operand with
    | ok pattern => rw [hp] at h; cases h
    | error reason =>
        rw [hp] at h
        cases h
        exact .pattern hoperator hp
  · cases h
  · rename_i hlen hregexp hin
    cases h
    exact .operator (Family.not_mem_operators_string.mpr ⟨hlen, hregexp, hin⟩)

theorem StringConstraint.error_of_fault (h : c.Fault field .string e) :
    StringConstraint.ofCondition field c = .error e := by
  unfold StringConstraint.ofCondition
  cases h with
  | length hoperator h => simp only [hoperator, readNatural_eq_error_iff.mpr h]
  | pattern hoperator h => simp only [hoperator, h]
  | operator h =>
      obtain ⟨hlen, hregexp, hin⟩ := Family.not_mem_operators_string.mp h
      split
      · contradiction
      · contradiction
      · contradiction
      · rfl

theorem IntConstraint.fault_of_error (h : IntConstraint.ofCondition field c = .error e) :
    c.Fault field .int e := by
  unfold IntConstraint.ofCondition at h
  split at h
  · rename_i hoperator
    obtain ⟨fault, hfault, rfl⟩ := readOperand_eq_error_iff.mp (map_eq_error_iff.mp h)
    exact .bound (Or.inl hoperator) hfault
  · rename_i hoperator
    obtain ⟨fault, hfault, rfl⟩ := readOperand_eq_error_iff.mp (map_eq_error_iff.mp h)
    exact .bound (Or.inr hoperator) hfault
  · rename_i hoperator
    obtain ⟨front, part, back, fault, hparts, hfront, hpart, rfl⟩ :=
      readOperands_eq_error_iff.mp (map_eq_error_iff.mp h)
    rw [hoperator]
    exact .member hoperator hparts hfront hpart
  · rename_i hmin hmax hin
    cases h
    exact .operator (Family.not_mem_operators_int.mpr ⟨hmin, hmax, hin⟩)

theorem IntConstraint.error_of_fault (h : c.Fault field .int e) :
    IntConstraint.ofCondition field c = .error e := by
  unfold IntConstraint.ofCondition
  cases h with
  | bound hoperator h =>
      have hread : IntConstraint.readOperand field c c.operand = .error _ :=
        readOperand_eq_error_iff.mpr ⟨_, h, rfl⟩
      rcases hoperator with hoperator | hoperator
      · simp only [hoperator, hread, map_eq_error_iff]
      · simp only [hoperator, hread, map_eq_error_iff]
  | member hoperator hparts hfront h =>
      have hread : IntConstraint.readOperands field c c.members = .error _ :=
        readOperands_eq_error_iff.mpr ⟨_, _, _, _, hparts, hfront, h, rfl⟩
      simp only [hoperator, hread, map_eq_error_iff]
  | operator h =>
      obtain ⟨hmin, hmax, hin⟩ := Family.not_mem_operators_int.mp h
      split
      · contradiction
      · contradiction
      · contradiction
      · rfl

/-- **A condition cannot be resolved exactly when something is wrong with it**, and that is the
    error. -/
theorem Condition.resolve_eq_error_iff {family : Family} :
    (resolve field c : Except SetupError family.Constraint) = .error e ↔
      c.Fault field family e := by
  cases family with
  | string => exact ⟨StringConstraint.fault_of_error, StringConstraint.error_of_fault⟩
  | int => exact ⟨IntConstraint.fault_of_error, IntConstraint.error_of_fault⟩

theorem Condition.exists_resolve_iff {family : Family} :
    (∃ constraint, (resolve field c : Except SetupError family.Constraint) = .ok constraint) ↔
      ∀ e, ¬c.Fault field family e := by
  simp only [exists_ok_iff, Ne, resolve_eq_error_iff]

/-- Nothing is wrong with a list of allowed strings. -/
theorem Condition.not_fault_of_in (hin : c.operator = "in") : ¬c.Fault field .string e := by
  intro h
  cases h with
  | operator h => exact h (by rw [hin]; decide)
  | length hoperator => rw [hin] at hoperator; exact absurd hoperator (by decide)
  | pattern hoperator => rw [hin] at hoperator; exact absurd hoperator (by decide)

end Conditions

/-! ## 3. Rules -/

section Rules

variable [PatternEngine]

/-- What is wrong with a rule on a field of a family. -/
inductive Rule.Fault (field rule : String) (family : Family) : SetupError → Prop where
  /-- A clause holds two colons or more, and it is the first that does. -/
  | malformed {front : List (List Char)} {clause : List Char} {back : List (List Char)}
      (hclauses : Text.PartsOf '|' rule.toList (front ++ clause :: back))
      (hfront : ∀ part ∈ front, part.count ':' < 2) (hclause : 2 ≤ clause.count ':') :
      Fault field rule family (.malformedClause rule (String.ofList clause))
  /-- No clause does, and of the conditions that they spell this is the first with something wrong
      in it. -/
  | unresolved {front : List Condition} {c : Condition} {back : List Condition} {e : SetupError}
      (hconditions : Rule.Spells rule (front ++ c :: back))
      (hfront : ∀ d ∈ front, ∀ e, ¬d.Fault field family e) (hc : c.Fault field family e) :
      Fault field rule family e

variable {field rule : String} {family : Family} {e : SetupError}

/-- **A check of values fails exactly when something is wrong with its rule**, and that is the
    error. -/
theorem checkValues_eq_error_iff_fault {values : List family.Value} :
    checkValues family.Constraint field rule values = .error e ↔
      Rule.Fault field rule family e := by
  rw [checkValues_eq_error_iff, Rule.parse_eq_error_iff]
  simp only [resolveAll_eq_mapM, mapM_eq_error_iff, Condition.exists_resolve_iff,
    Condition.resolve_eq_error_iff, Rule.parse_eq_ok_iff]
  constructor
  · rintro (⟨front, clause, back, hclauses, hfront, hclause, rfl⟩ |
      ⟨conditions, hspells, front, c, back, rfl, hfront, hc⟩)
    · exact .malformed hclauses hfront hclause
    · exact .unresolved hspells hfront hc
  · rintro (⟨hclauses, hfront, hclause⟩ | ⟨hspells, hfront, hc⟩)
    · exact Or.inl ⟨_, _, _, hclauses, hfront, hclause, rfl⟩
    · exact Or.inr ⟨_, hspells, _, _, _, rfl, hfront, hc⟩

/-- Something is wrong with every rule that has an empty clause, since nothing is no operator. -/
theorem Rule.exists_fault_of_empty (field : String) (family : Family)
    {clauses : List (List Char)} (hclauses : Text.PartsOf '|' rule.toList clauses)
    (hempty : [] ∈ clauses) : ∃ e, Rule.Fault field rule family e := by
  by_cases hrule : ∃ constraints : List family.Constraint, Rule.ResolvesTo field rule constraints
  · exfalso
    obtain ⟨constraints, conditions, hparse, hresolve⟩ := hrule
    rw [Rule.parse, Rule.ofClauses_eq_mapM, Text.partsOf_iff.mp hclauses] at hparse
    rw [resolveAll_eq_mapM] at hresolve
    obtain ⟨c, hc, hread⟩ := exists_mem_of_mapM hparse [] hempty
    have hnothing : c.operator = "" := by
      cases Rule.readClause_eq_ok_iff.mp hread
      rfl
    obtain ⟨constraint, -, hconstraint⟩ := exists_mem_of_mapM hresolve c hc
    refine Condition.exists_resolve_iff.mp ⟨constraint, hconstraint⟩ _ (.operator ?_)
    rw [hnothing]
    cases family <;> decide
  · obtain ⟨e, he⟩ := checkValues_of_unresolved family.Constraint hrule
    exact ⟨e, checkValues_eq_error_iff_fault.mp (he [])⟩

end Rules

/-! ## 4. Leaves -/

/-- The family of a leaf, unless it takes no conditions. -/
def Leaf.family? : Leaf → Option Family
  | .str _ | .strSeq _ => some .string
  | .int _ | .intSeq _ => some .int
  | .other _ | .mismatch .. => none

@[simp] theorem Family.family?_single (family : Family) (value : family.Value) :
    (family.single value).family? = some family := by
  cases family <;> rfl

@[simp] theorem Family.family?_sequence (family : Family) (values : List family.Value) :
    (family.sequence values).family? = some family := by
  cases family <;> rfl

section Leaves

variable [PatternEngine]

/-- What is wrong with a leaf under a rule. -/
inductive Leaf.Fault (config : Config) (field rule : String) (v : Leaf) : SetupError → Prop where
  /-- It takes no conditions, whatever the rule. -/
  | other {typeName : String} (hv : v = .other typeName) :
      Fault config field rule v (.unsupportedType field typeName)
  /-- It is not of its declared kind, whatever the rule. -/
  | mismatch {expected : FieldKind} {actual : String} (hv : v = .mismatch expected actual) :
      Fault config field rule v (.valueMismatch field expected actual)
  /-- Something is wrong with the rule, whatever the values. -/
  | rule {family : Family} {e : SetupError} (hv : v.family? = some family)
      (h : Rule.Fault field rule family e) : Fault config field rule v e
  /-- Nothing is wrong with the rule, but the sequence is empty and must not be. -/
  | empty {family : Family} (hv : v = family.sequence [])
      (hrule : ∀ e, ¬Rule.Fault field rule family e) (hconfig : config.emptySequence = .reject) :
      Fault config field rule v (.emptySequence field)

variable {config : Config} {field rule : String} {family : Family} {e : SetupError}

theorem Leaf.fault_single_iff {value : family.Value} :
    (family.single value).Fault config field rule e ↔ Rule.Fault field rule family e := by
  refine ⟨fun h => ?_, .rule (family.family?_single value)⟩
  cases h with
  | other hv => cases family <;> cases hv
  | mismatch hv => cases family <;> cases hv
  | rule hv h =>
      rw [Family.family?_single, Option.some.injEq] at hv
      cases hv
      exact h
  | @empty family' hv => cases family <;> cases family' <;> cases hv

theorem Leaf.fault_sequence_iff {values : List family.Value} :
    (family.sequence values).Fault config field rule e ↔
      Rule.Fault field rule family e ∨
        (∀ e, ¬Rule.Fault field rule family e) ∧
          (values = [] ∧ config.emptySequence = .reject) ∧ e = .emptySequence field := by
  constructor
  · intro h
    cases h with
    | other hv => cases family <;> cases hv
    | mismatch hv => cases family <;> cases hv
    | rule hv h =>
        rw [Family.family?_sequence, Option.some.injEq] at hv
        cases hv
        exact Or.inl h
    | @empty family' hv hrule hconfig =>
        refine Or.inr ?_
        cases family <;> cases family' <;> cases hv <;>
          exact ⟨hrule, ⟨rfl, hconfig⟩, rfl⟩
  · rintro (h | ⟨hrule, ⟨rfl, hconfig⟩, rfl⟩)
    · exact .rule (family.family?_sequence values) h
    · exact .empty rfl hrule hconfig

theorem Leaf.fault_other_iff {typeName : String} :
    (Leaf.other typeName).Fault config field rule e ↔ e = .unsupportedType field typeName := by
  constructor
  · intro h
    cases h with
    | other hv => cases hv; rfl
    | mismatch hv => cases hv
    | rule hv => cases hv
    | @empty family hv => cases family <;> cases hv
  · rintro rfl
    exact .other rfl

theorem Leaf.fault_mismatch_iff {expected : FieldKind} {actual : String} :
    (Leaf.mismatch expected actual).Fault config field rule e ↔
      e = .valueMismatch field expected actual := by
  constructor
  · intro h
    cases h with
    | other hv => cases hv
    | mismatch hv => cases hv; rfl
    | rule hv => cases hv
    | @empty family hv => cases family <;> cases hv
  · rintro rfl
    exact .mismatch rfl

/-- **A leaf ends with an error exactly when something is wrong with it**, and that is the error. -/
theorem Leaf.outcome_eq_error_iff {v : Leaf} :
    v.outcome config field rule = .error e ↔ v.Fault config field rule e := by
  rcases v.family_cases with ⟨family, value, rfl⟩ | ⟨family, values, rfl⟩ | ⟨typeName, rfl⟩ |
    ⟨expected, actual, rfl⟩
  · rw [Family.outcome_single, checkValues_eq_error_iff_fault, Leaf.fault_single_iff]
  · rw [Family.outcome_sequence, Leaf.fault_sequence_iff, checkSequence_eq_error_iff]
    simp only [exists_ok_iff, Ne, checkValues_eq_error_iff_fault]
  · rw [Leaf.outcome, Leaf.fault_other_iff, Except.error.injEq, eq_comm]
  · rw [Leaf.outcome, Leaf.fault_mismatch_iff, Except.error.injEq, eq_comm]

/-- A rule with an empty clause is an error on every leaf. -/
theorem Leaf.exists_error_of_empty (v : Leaf) {clauses : List (List Char)}
    (hclauses : Text.PartsOf '|' rule.toList clauses) (hempty : [] ∈ clauses) :
    ∃ e, v.outcome config field rule = .error e := by
  simp only [Leaf.outcome_eq_error_iff]
  cases hv : v.family? with
  | some family =>
      obtain ⟨e, he⟩ := Rule.exists_fault_of_empty field family hclauses hempty
      exact ⟨e, .rule hv he⟩
  | none =>
      cases v with
      | other typeName => exact ⟨_, .other rfl⟩
      | mismatch expected actual => exact ⟨_, .mismatch rfl⟩
      | str s | int n | strSeq items | intSeq items => cases hv

/-- **A leaf shows what is wrong with it.** Whatever its rule, a leaf that takes no conditions and
    one that is not of its declared kind show just that. Any other leaf shows the first clause with
    two colons or more, whatever stands in front of it; without such a clause it shows the first
    condition that cannot be resolved; and with nothing wrong in the rule, an empty sequence that
    must not be empty. That is the only error, and without any of these there is none. So an empty
    clause is always an error, and a list of allowed strings never is one. -/
theorem Leaf.outcome_iff_fault (config : Config) (field rule : String) (v : Leaf) :
    (∀ e, v.outcome config field rule = .error e ↔ v.Fault config field rule e) ∧
    ((∃ us, v.outcome config field rule = .ok us) ↔ ∀ e, ¬v.Fault config field rule e) ∧
    (∀ clauses, Text.PartsOf '|' rule.toList clauses → [] ∈ clauses →
      ∃ e, v.outcome config field rule = .error e) ∧
    (∀ (c : Condition) (e : SetupError), c.operator = "in" → ¬c.Fault field .string e) := by
  refine ⟨fun e => Leaf.outcome_eq_error_iff, ?_,
    fun clauses hclauses hempty => Leaf.exists_error_of_empty v hclauses hempty,
    fun c e hin => Condition.not_fault_of_in hin⟩
  simp only [exists_ok_iff, Ne, Leaf.outcome_eq_error_iff]

/-- The clause with two colons is shown, not the unknown operator in front of it. -/
example : (Leaf.str "x").outcome .standard "f" "unsup|len:x:y|a:b:c"
    = .error (.malformedClause "unsup|len:x:y|a:b:c" "len:x:y") := rfl

/-- The first member that is no integer is shown, not the empty sequence. -/
example : (Leaf.intSeq []).outcome .strict "f" "in:1,x,y|max:z"
    = .error (.badOperand "f" "in" "x" .invalidDigit) := rfl

end Leaves

end RecordRules
