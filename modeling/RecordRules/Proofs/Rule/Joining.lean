import RecordRules.Pattern.Reader
import RecordRules.Proofs.Order
import RecordRules.Proofs.Rule.Faults

/-!
# Two rules in one

Two rules can be put on a field by a bar between them, or by listing the field twice. The conditions
are the same, in the same order, and so are the constraints that they are resolved into
(`Rule.parse_join`, `resolveAll_append`). What differs is the order of the violations of a sequence:
joined rules are evaluated element by element, a field listed twice goes through the sequence twice.

* `together_append`: results in a row may be put together part by part;
* `checkValues_join_eq`, `Walk.perRule_join`: single values and nested records cannot tell the two
  apart;
* `checkValues_join_perm`: a sequence can, but only by the order.

**`joined_rule_is_field_twice`** says it of fields in a record.
-/

namespace RecordRules

/-! ## 1. Conditions of both rules -/

/-- Two rules with a bar between them. -/
def Rule.join (first second : String) : String := first ++ "|" ++ second

section Join

variable {first second : String} {cs ds : List Condition}

/-- The clauses of joined rules are the clauses of both. -/
theorem Rule.split_join (first second : String) :
    Text.split '|' (join first second).toList
      = Text.split '|' first.toList ++ Text.split '|' second.toList := by
  rw [join, String.toList_append, String.toList_append, List.append_assoc]
  exact Text.split_append_sep '|' first.toList second.toList

/-- **Joined rules are read into the conditions of both.** -/
theorem Rule.parse_join (hfirst : parse first = .ok cs) (hsecond : parse second = .ok ds) :
    parse (join first second) = .ok (cs ++ ds) := by
  rw [parse, split_join, ofClauses_eq_ok_iff]
  exact List.rel_append (ofClauses_eq_ok_iff.mp hfirst) (ofClauses_eq_ok_iff.mp hsecond)

/-- And they can be read only when both can. -/
theorem Rule.exists_of_parse_join {conditions : List Condition}
    (h : parse (join first second) = .ok conditions) :
    ∃ cs ds, parse first = .ok cs ∧ parse second = .ok ds ∧ conditions = cs ++ ds := by
  obtain ⟨clauses, hclauses, hcolons⟩ := exists_parse_iff.mp ⟨conditions, h⟩
  have hboth : Text.split '|' first.toList ++ Text.split '|' second.toList = clauses := by
    rw [← split_join]
    exact Text.partsOf_iff.mp hclauses
  rw [← hboth, List.forall_mem_append] at hcolons
  obtain ⟨cs, hcs⟩ := exists_parse_iff.mpr ⟨_, Text.partsOf_split '|' _, hcolons.1⟩
  obtain ⟨ds, hds⟩ := exists_parse_iff.mpr ⟨_, Text.partsOf_split '|' _, hcolons.2⟩
  have hjoined := parse_join hcs hds
  rw [h] at hjoined
  exact ⟨cs, ds, hcs, hds, Except.ok.inj hjoined⟩

section Results

variable {α : Type}

theorem inARow_assoc (x y z : Except SetupError (List α)) :
    inARow (inARow x y) z = inARow x (inARow y z) := by
  cases x with
  | error e => rfl
  | ok as =>
      cases y with
      | error e => rfl
      | ok bs => cases z <;> simp [inARow, Except.bind, Except.map]

theorem inARow_nil (x : Except SetupError (List α)) : inARow x (.ok []) = x := by
  cases x <;> simp [inARow, Except.bind, Except.map]

theorem nil_inARow (x : Except SetupError (List α)) : inARow (.ok []) x = x := by
  cases x <;> simp [inARow, Except.bind, Except.map]

/-- Two results in a row are nothing only when the first one is. -/
theorem eq_nil_of_inARow {x y : Except SetupError (List α)} (h : inARow x y = .ok []) :
    x = .ok [] := by
  cases x with
  | error e => cases h
  | ok as =>
      cases y with
      | error e => cases h
      | ok bs =>
          have happend : as ++ bs = [] := Except.ok.inj h
          rw [(List.append_eq_nil_iff.mp happend).1]

/-- **Results in a row may be put together part by part.** -/
theorem together_append (xs ys : List (Except SetupError (List α))) :
    together (xs ++ ys) = inARow (together xs) (together ys) := by
  induction xs with
  | nil => exact (nil_inARow _).symm
  | cons x xs ih => rw [List.cons_append, together, together, ih, inARow_assoc]

end Results

theorem resolveAll_append (C : Type) {V : Type} [ConstraintFamily C V] (field : String)
    (cs ds : List Condition) :
    resolveAll C field (cs ++ ds) = inARow (resolveAll C field cs) (resolveAll C field ds) := by
  rw [resolveAll_eq_together, resolveAll_eq_together, resolveAll_eq_together, List.map_append,
    together_append]

/-! ## 2. Leaves -/

section Checks

variable (C : Type) {V : Type} [ConstraintFamily C V] (field : String)

theorem violationsOf_append (ks ls : List C) (value : V) :
    violationsOf field (ks ++ ls) value
      = violationsOf field ks value ++ violationsOf field ls value :=
  List.filterMap_append

/-- Going through the constraints value by value, or through the values twice, finds the same. -/
theorem evaluate_constraints_perm (ks ls : List C) (values : List V) :
    (evaluate field (ks ++ ls) values).Perm
      (evaluate field ks values ++ evaluate field ls values) := by
  have hvalue : violationsOf field (ks ++ ls)
      = fun value => violationsOf field ks value ++ violationsOf field ls value :=
    funext (violationsOf_append C field ks ls)
  rw [evaluate, hvalue]
  exact (List.flatMap_append_perm values _ _).symm

/-- And with one value at most, in the same order. -/
theorem evaluate_constraints_append (ks ls : List C) {values : List V} (h : values.length ≤ 1) :
    evaluate field (ks ++ ls) values
      = evaluate field ks values ++ evaluate field ls values := by
  match values, h with
  | [], _ => rfl
  | [value], _ =>
      rw [evaluate_singleton, evaluate_singleton, evaluate_singleton, violationsOf_append]

variable (hfirst : Rule.parse first = .ok cs) (hsecond : Rule.parse second = .ok ds)

include hfirst hsecond

/-- Values under joined rules and values checked twice have the same error, or the constraints of
    both rules are there. -/
theorem checkValues_join_cases (values : List V) :
    (∃ e, checkValues C field (Rule.join first second) values = .error e ∧
      inARow (checkValues C field first values) (checkValues C field second values) = .error e) ∨
    (∃ ks ls : List C,
      checkValues C field (Rule.join first second) values
        = .ok (evaluate field (ks ++ ls) values) ∧
      inARow (checkValues C field first values) (checkValues C field second values)
        = .ok (evaluate field ks values ++ evaluate field ls values)) := by
  rw [checkValues_of_parse C (Rule.parse_join hfirst hsecond), checkValues_of_parse C hfirst,
    checkValues_of_parse C hsecond, resolveAll_append]
  cases resolveAll C field cs with
  | error e => exact Or.inl ⟨e, rfl, rfl⟩
  | ok ks =>
      cases resolveAll C field ds with
      | error e => exact Or.inl ⟨e, rfl, rfl⟩
      | ok ls => exact Or.inr ⟨ks, ls, rfl, rfl⟩

/-- **One value at most cannot tell joined rules from two checks.** -/
theorem checkValues_join_eq {values : List V} (h : values.length ≤ 1) :
    checkValues C field (Rule.join first second) values
      = inARow (checkValues C field first values) (checkValues C field second values) := by
  rcases checkValues_join_cases C field hfirst hsecond values with
    ⟨e, hjoined, htwice⟩ | ⟨ks, ls, hjoined, htwice⟩
  · rw [hjoined, htwice]
  · rw [hjoined, htwice, evaluate_constraints_append C field ks ls h]

/-- **More values can, but only by the order of the violations.** -/
theorem checkValues_join_perm (values : List V) :
    (∀ e, checkValues C field (Rule.join first second) values = .error e ↔
      inARow (checkValues C field first values) (checkValues C field second values) = .error e) ∧
    (∀ us vs, checkValues C field (Rule.join first second) values = .ok us →
      inARow (checkValues C field first values) (checkValues C field second values) = .ok vs →
        us.Perm vs) := by
  rcases checkValues_join_cases C field hfirst hsecond values with
    ⟨e, hjoined, htwice⟩ | ⟨ks, ls, hjoined, htwice⟩
  · rw [hjoined, htwice]
    exact ⟨fun d => Iff.rfl, fun us vs h => (by cases h)⟩
  · rw [hjoined, htwice]
    refine ⟨fun e => ⟨fun h => (by cases h), fun h => (by cases h)⟩, fun us vs hus hvs => ?_⟩
    cases hus
    cases hvs
    exact evaluate_constraints_perm C field ks ls values

omit hfirst hsecond

/-- **Values that pass joined rules pass the first of them**, so a rule behind another one never
    lets more pass. -/
theorem checkValues_eq_nil_of_join {values : List V}
    (h : checkValues C field (Rule.join first second) values = .ok []) :
    checkValues C field first values = .ok [] := by
  obtain ⟨_, ⟨_, hparse, -⟩, -⟩ := checkValues_eq_ok_iff.mp h
  obtain ⟨cs, ds, hcs, hds, -⟩ := Rule.exists_of_parse_join hparse
  have htwice : inARow (checkValues C field first values) (checkValues C field second values)
      = .ok [] := by
    rcases checkValues_join_cases C field hcs hds values with
      ⟨e, hjoined, -⟩ | ⟨ks, ls, hjoined, htwice⟩
    · rw [h] at hjoined
      cases hjoined
    · rw [h, Except.ok.injEq] at hjoined
      have hperm := evaluate_constraints_perm C field ks ls values
      rw [← hjoined, List.nil_perm] at hperm
      rw [htwice, hperm]
  exact eq_nil_of_inARow htwice

end Checks

/-! ## 3. Nested records -/

/-- **A nested record under joined rules is the nested record under one rule and then under the
    other.** -/
theorem Walk.perRule_join (hfirst : Rule.parse first = .ok cs)
    (hsecond : Rule.parse second = .ok ds) (field : String) (depth : Nat) (inner : Walk) :
    (perRule field (Rule.join first second) depth inner).result
      = inARow (perRule field first depth inner).result
          (perRule field second depth inner).result := by
  rw [perRule_of_ok (Rule.parse_join hfirst hsecond), perRule_of_ok hfirst, perRule_of_ok hsecond,
    perClause_eq_together, perClause_eq_together, perClause_eq_together, List.map_append,
    together_append]

/-! ## 4. Fields -/

section Fields

variable [PatternEngine] (config : Config) (depth : Nat) (name : String)

/-- What a field comes to under the two rules joined. -/
def resultOfJoined (first second : String) (value : FieldValue) :
    Except SetupError (List Violation) :=
  ((Field.mk name (Rule.join first second) value).walk config depth).result

/-- What the field comes to when it is listed twice, under one rule and then under the other. -/
def resultOfTwice (first second : String) (value : FieldValue) :
    Except SetupError (List Violation) :=
  (walkFields config depth [.mk name first value, .mk name second value]).result

theorem resultOfTwice_eq (first second : String) (value : FieldValue) :
    resultOfTwice config depth name first second value
      = inARow ((Field.mk name first value).walk config depth).result
          ((Field.mk name second value).walk config depth).result := by
  rw [resultOfTwice, walkFields_eq_together, List.map_cons, List.map_cons, List.map_nil, together,
    together, together, inARow_nil]

theorem Field.result_walk_leaf (rule : String) (v : Leaf) :
    ((Field.mk name rule (.leaf v)).walk config depth).result = v.outcome config name rule := rfl

theorem Field.result_walk_record (rule : String) (inner : Record) :
    ((Field.mk name rule (.record inner)).walk config depth).result
      = (Walk.perRule name rule (depth + 1) (inner.walk config (depth + 1))).result := rfl

/-- **Two rules joined are the field listed twice.** For values that are no sequences, joining two
    rules that can be read and listing the field under both of them come to the same. For sequences
    they come to the same error, or to the same violations up to their order, and in the same order
    with one element at most; where an empty sequence is refused, both come to some error. -/
theorem joined_rule_is_field_twice (hfirst : Rule.parse first = .ok cs)
    (hsecond : Rule.parse second = .ok ds) :
    (∀ value : FieldValue,
      (∀ (family : Family) (values : List family.Value), value ≠ .leaf (family.sequence values)) →
        resultOfJoined config depth name first second value
          = resultOfTwice config depth name first second value) ∧
    (∀ (family : Family) (values : List family.Value),
      ¬(values = [] ∧ config.emptySequence = .reject) →
        (∀ e, resultOfJoined config depth name first second (.leaf (family.sequence values))
            = .error e ↔
          resultOfTwice config depth name first second (.leaf (family.sequence values))
            = .error e) ∧
        (∀ us vs,
          resultOfJoined config depth name first second (.leaf (family.sequence values)) = .ok us →
          resultOfTwice config depth name first second (.leaf (family.sequence values)) = .ok vs →
            us.Perm vs ∧ (values.length ≤ 1 → us = vs))) ∧
    (∀ (family : Family) (values : List family.Value),
      values = [] ∧ config.emptySequence = .reject →
        (∃ d, resultOfJoined config depth name first second (.leaf (family.sequence values))
            = .error d) ∧
        ∃ e, resultOfTwice config depth name first second (.leaf (family.sequence values))
            = .error e) := by
  simp only [resultOfTwice_eq, resultOfJoined, Field.result_walk_leaf, Family.outcome_sequence]
  refine ⟨fun value hvalue => ?_, fun family values haccepted => ?_,
    fun family values hrefused => ?_⟩
  · cases value with
    | record inner =>
        simp only [Field.result_walk_record]
        exact Walk.perRule_join hfirst hsecond name (depth + 1) _
    | leaf v =>
        simp only [Field.result_walk_leaf]
        rcases v.family_cases with ⟨family, value, rfl⟩ | ⟨family, values, rfl⟩ | ⟨typeName, rfl⟩ |
          ⟨expected, actual, rfl⟩
        · simp only [Family.outcome_single]
          exact checkValues_join_eq family.Constraint name hfirst hsecond (Nat.le_refl 1)
        · exact absurd rfl (hvalue family values)
        · rfl
        · rfl
  · simp only [checkSequence_of_accepted _ haccepted]
    have hperm := checkValues_join_perm family.Constraint name hfirst hsecond values
    refine ⟨hperm.1, fun us vs hus hvs => ⟨hperm.2 us vs hus hvs, fun hlength => ?_⟩⟩
    rw [checkValues_join_eq family.Constraint name hfirst hsecond hlength, hvs] at hus
    exact (Except.ok.inj hus).symm
  · obtain ⟨d, hd⟩ := exists_error_of_refused family.Constraint name (Rule.join first second)
      hrefused
    obtain ⟨e, he⟩ := exists_error_of_refused family.Constraint name first hrefused
    exact ⟨⟨d, hd⟩, e, by rw [he]; rfl⟩

end Fields

end Join

open scoped Pattern

/-- Each of two codes violates one condition of either rule. Going through the codes once or twice
    finds the same in another order. -/
theorem joined_rule_is_field_twice_codes :
    Rule.parse "min:5|max:8" = .ok [⟨"min", "5"⟩, ⟨"max", "8"⟩] ∧
      Rule.parse "in:7" = .ok [⟨"in", "7"⟩] ∧
      ∃ us vs,
        resultOfJoined .standard 0 "codes" "min:5|max:8" "in:7" (.leaf (.intSeq [3, 9])) = .ok us ∧
        resultOfTwice .standard 0 "codes" "min:5|max:8" "in:7" (.leaf (.intSeq [3, 9])) = .ok vs ∧
        us ≠ vs ∧ us.Perm vs := by
  have hfirst : Rule.parse "min:5|max:8" = .ok [⟨"min", "5"⟩, ⟨"max", "8"⟩] := rfl
  have hsecond : Rule.parse "in:7" = .ok [⟨"in", "7"⟩] := rfl
  have hjoined : resultOfJoined .standard 0 "codes" "min:5|max:8" "in:7" (.leaf (.intSeq [3, 9]))
      = .ok [⟨"codes", .intMin⟩, ⟨"codes", .intIn⟩, ⟨"codes", .intMax⟩, ⟨"codes", .intIn⟩] := rfl
  have htwice : resultOfTwice .standard 0 "codes" "min:5|max:8" "in:7" (.leaf (.intSeq [3, 9]))
      = .ok [⟨"codes", .intMin⟩, ⟨"codes", .intMax⟩, ⟨"codes", .intIn⟩, ⟨"codes", .intIn⟩] := rfl
  have hsequence := (joined_rule_is_field_twice .standard 0 "codes" hfirst hsecond).2.1 .int
    ([3, 9] : List Int) fun h => List.cons_ne_nil _ _ h.1
  exact ⟨hfirst, hsecond, _, _, hjoined, htwice, by decide, (hsequence.2 _ _ hjoined htwice).1⟩

end RecordRules
