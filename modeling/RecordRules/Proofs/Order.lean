import Mathlib.Data.List.Perm.Basic
import RecordRules.Pattern.Reader
import RecordRules.Proofs.Walk

/-!
# Order is presentation only

The order of the fields of a record, of the clauses of a rule and of the elements of a sequence
decides in which order violations are reported, and which of several errors is met first. It decides
neither whether there is an error nor what is violated how often.

* `SameUpToOrder` is what two results have in common: an error each, or permuted items;
* `together` puts results one behind the other. Reading a rule, resolving its conditions, walking
  through a nested record clause by clause and walking through fields are all of this form, and
  `together_perm` says once for all of them that the order does not matter;
* `Record.Reordered` says of two records that they differ in nothing but the three orders, on any
  levels.

**`reordered_same_violations`** says it of whole validations.
-/

namespace RecordRules

/-! ## 1. Results up to the order of their items -/

/-- The same items in any order, or an error on both sides, which may be another one. -/
inductive SameUpToOrder {α : Type} :
    Except SetupError (List α) → Except SetupError (List α) → Prop where
  /-- Two errors. -/
  | error (d e : SetupError) : SameUpToOrder (.error d) (.error e)
  /-- The same items. -/
  | ok {as bs : List α} (h : as.Perm bs) : SameUpToOrder (.ok as) (.ok bs)

/-- The items of two results in a row. -/
def inARow {α : Type} (x y : Except SetupError (List α)) : Except SetupError (List α) :=
  x.bind fun as => y.map (as ++ ·)

/-- The items of any number of results in a row, or the first error among them. -/
def together {α : Type} : List (Except SetupError (List α)) → Except SetupError (List α)
  | [] => .ok []
  | x :: xs => inARow x (together xs)

section Results

variable {α : Type} {x y z x' y' : Except SetupError (List α)}

namespace SameUpToOrder

theorem refl (x : Except SetupError (List α)) : SameUpToOrder x x := by
  cases x with
  | error e => exact .error e e
  | ok as => exact .ok (List.Perm.refl as)

theorem trans (hxy : SameUpToOrder x y) (hyz : SameUpToOrder y z) : SameUpToOrder x z := by
  cases hxy with
  | error d e => cases hyz; exact .error d _
  | ok h =>
      cases hyz with
      | ok h' => exact .ok (h.trans h')

theorem append (hx : SameUpToOrder x x') (hy : SameUpToOrder y y') :
    SameUpToOrder (inARow x y) (inARow x' y') := by
  cases hx with
  | error d e => exact .error d e
  | ok h =>
      cases hy with
      | error d e => exact .error d e
      | ok h' => exact .ok (h.append h')

/-- Two neighbours may change places. -/
theorem swap (x y z : Except SetupError (List α)) :
    SameUpToOrder (inARow x (inARow y z)) (inARow y (inARow x z)) := by
  cases x with
  | error d => cases y <;> exact .error _ _
  | ok as =>
      cases y with
      | error e => exact .error e e
      | ok bs =>
          cases z with
          | error e => exact .error e e
          | ok cs => exact .ok (List.perm_append_comm_assoc as bs cs)

/-- The two cases, for results that are not given by a constructor. -/
theorem error_or_ok (h : SameUpToOrder x y) :
    (∃ d e, x = .error d ∧ y = .error e) ∨ ∃ as bs, x = .ok as ∧ y = .ok bs ∧ as.Perm bs := by
  cases h with
  | error d e => exact Or.inl ⟨d, e, rfl, rfl⟩
  | ok h => exact Or.inr ⟨_, _, rfl, rfl, h⟩

end SameUpToOrder

/-- **Results in a row may be put into any order.** -/
theorem together_perm {xs ys : List (Except SetupError (List α))} (h : xs.Perm ys) :
    SameUpToOrder (together xs) (together ys) := by
  induction h with
  | nil => exact .refl _
  | cons x _ ih => exact (SameUpToOrder.refl x).append ih
  | swap x y xs => exact .swap y x (together xs)
  | trans _ _ ih₁ ih₂ => exact ih₁.trans ih₂

/-- Each of them may be replaced by one with the same items. -/
theorem together_map {β : Type} {f g : β → Except SetupError (List α)}
    (h : ∀ b, SameUpToOrder (f b) (g b)) : ∀ bs : List β,
      SameUpToOrder (together (bs.map f)) (together (bs.map g))
  | [] => .refl _
  | b :: bs => (h b).append (together_map h bs)

end Results

/-! ## 2. Rules -/

/-- The same clauses in any order. -/
def Rule.Reordered (rule rule' : String) : Prop :=
  (Text.split '|' rule.toList).Perm (Text.split '|' rule'.toList)

/-- What one clause contributes to reading a rule. -/
def Rule.ofClause (rule : String) (clause : List Char) : Except SetupError (List Condition) :=
  match Condition.ofClause? clause with
  | none => .error (.malformedClause rule (String.ofList clause))
  | some c => .ok [c]

theorem Rule.ofClauses_eq_together (rule : String) : ∀ clauses : List (List Char),
    ofClauses rule clauses = together (clauses.map (ofClause rule))
  | [] => rfl
  | clause :: clauses => by
      rw [ofClauses, List.map_cons, together, ← ofClauses_eq_together rule clauses, ofClause]
      cases Condition.ofClause? clause <;> rfl

/-- **A rule is read into the same conditions in whatever order its clauses stand.** An error names
    the whole rule, so it is another one even for the same clause. -/
theorem Rule.Reordered.parse {rule rule' : String} (h : Rule.Reordered rule rule') :
    SameUpToOrder (Rule.parse rule) (Rule.parse rule') := by
  have hclause : ∀ clause,
      SameUpToOrder (Rule.ofClause rule clause) (Rule.ofClause rule' clause) := by
    intro clause
    unfold Rule.ofClause
    cases Condition.ofClause? clause with
    | none => exact .error _ _
    | some c => exact .refl _
  unfold Rule.parse
  rw [Rule.ofClauses_eq_together, Rule.ofClauses_eq_together]
  exact (together_map hclause _).trans (together_perm (h.map _))

theorem resolveAll_eq_together (C : Type) {V : Type} [ConstraintFamily C V] (field : String) :
    ∀ conditions : List Condition,
      resolveAll C field conditions
        = together (conditions.map fun c => (resolve field c : Except SetupError C).map ([·]))
  | [] => rfl
  | c :: cs => by
      rw [resolveAll, List.map_cons, together, ← resolveAll_eq_together C field cs]
      cases (resolve field c : Except SetupError C) <;> rfl

theorem resolveAll_perm (C : Type) {V : Type} [ConstraintFamily C V] (field : String)
    {conditions conditions' : List Condition} (h : conditions.Perm conditions') :
    SameUpToOrder (resolveAll C field conditions) (resolveAll C field conditions') := by
  rw [resolveAll_eq_together, resolveAll_eq_together]
  exact together_perm (h.map _)

/-! ## 3. Leaves -/

/-- The same leaf, up to the order of the elements of a sequence. -/
inductive Leaf.Reordered : Leaf → Leaf → Prop where
  /-- The same leaf. -/
  | same (v : Leaf) : Leaf.Reordered v v
  /-- The same strings in any order. -/
  | strSeq {ss ts : List String} (h : ss.Perm ts) : Leaf.Reordered (.strSeq ss) (.strSeq ts)
  /-- The same integers in any order. -/
  | intSeq {ms ns : List Int} (h : ms.Perm ns) : Leaf.Reordered (.intSeq ms) (.intSeq ns)

section Leaves

variable (C : Type) {V : Type} [ConstraintFamily C V] (config : Config) (field : String)
  {rule rule' : String}

theorem evaluate_perm {constraints constraints' : List C} {values values' : List V}
    (hc : constraints.Perm constraints') (hv : values.Perm values') :
    (evaluate field constraints values).Perm (evaluate field constraints' values') :=
  hv.flatMap fun _ _ => hc.filterMap _

theorem checkValues_reordered {values values' : List V} (hrule : Rule.Reordered rule rule')
    (hv : values.Perm values') :
    SameUpToOrder (checkValues C field rule values) (checkValues C field rule' values') := by
  unfold checkValues
  rcases hrule.parse.error_or_ok with ⟨d, e, hd, he⟩ | ⟨cs, cs', hcs, hcs', hconditions⟩
  · rw [hd, he]
    exact .error d e
  · rw [hcs, hcs']
    simp only
    rcases (resolveAll_perm C field hconditions).error_or_ok with
      ⟨d, e, hd, he⟩ | ⟨ks, ks', hks, hks', hconstraints⟩
    · rw [hd, he]
      exact .error d e
    · rw [hks, hks']
      exact .ok (evaluate_perm C field hconstraints hv)

theorem checkSequence_reordered {values values' : List V} (hrule : Rule.Reordered rule rule')
    (hv : values.Perm values') :
    SameUpToOrder (config.checkSequence C field rule values)
      (config.checkSequence C field rule' values') := by
  have hrefuses : config.refuses values = config.refuses values' := by
    unfold Config.refuses
    rw [hv.isEmpty_eq]
  unfold Config.checkSequence
  rw [hrefuses]
  rcases (checkValues_reordered C field hrule hv).error_or_ok with
    ⟨d, e, hd, he⟩ | ⟨us, vs, hus, hvs, hperm⟩
  · rw [hd, he]
    exact .error d e
  · rw [hus, hvs]
    cases config.refuses values' with
    | true => exact .error _ _
    | false => exact .ok hperm

/-- **A leaf violates the same conditions in whatever order they and its elements stand.** -/
theorem Leaf.Reordered.outcome [PatternEngine] {v w : Leaf} (h : Leaf.Reordered v w)
    (hrule : Rule.Reordered rule rule') :
    SameUpToOrder (v.outcome config field rule) (w.outcome config field rule') := by
  cases h with
  | same v =>
      cases v with
      | str s => exact checkValues_reordered StringConstraint field hrule (.refl [s])
      | int n => exact checkValues_reordered IntConstraint field hrule (.refl [n])
      | strSeq ss => exact checkSequence_reordered StringConstraint config field hrule (.refl ss)
      | intSeq ns => exact checkSequence_reordered IntConstraint config field hrule (.refl ns)
      | other typeName => exact .error _ _
      | mismatch expected actual => exact .error _ _
  | strSeq h => exact checkSequence_reordered StringConstraint config field hrule h
  | intSeq h => exact checkSequence_reordered IntConstraint config field hrule h

end Leaves

/-! ## 4. Records -/

mutual

/-- Two records with the same fields, rules and elements of sequences, each in any order, on every
    level. -/
inductive Record.Reordered : Record → Record → Prop where
  /-- The same reason why there are no fields. -/
  | unreadable (e : SetupError) : Record.Reordered (.unreadable e) (.unreadable e)
  /-- The same fields up to what is in them, in any order. -/
  | ofFields {fields fields' permuted : List Field} (h : FieldsReordered fields fields')
      (hperm : fields'.Perm permuted) : Record.Reordered (.ofFields fields) (.ofFields permuted)

/-- Fields with the same names, one by one, and with rules and values that differ in order only. -/
inductive FieldsReordered : List Field → List Field → Prop where
  /-- No fields. -/
  | nil : FieldsReordered [] []
  /-- Two leaves in front. -/
  | leaf (name : String) {rule rule' : String} {v w : Leaf} {fields fields' : List Field}
      (hrule : Rule.Reordered rule rule') (h : Leaf.Reordered v w)
      (hs : FieldsReordered fields fields') :
      FieldsReordered (.mk name rule (.leaf v) :: fields) (.mk name rule' (.leaf w) :: fields')
  /-- Two nested records in front. -/
  | record (name : String) {rule rule' : String} {r s : Record} {fields fields' : List Field}
      (hrule : Rule.Reordered rule rule') (h : Record.Reordered r s)
      (hs : FieldsReordered fields fields') :
      FieldsReordered (.mk name rule (.record r) :: fields)
        (.mk name rule' (.record s) :: fields')

end

section Records

/-- What one clause of the rule of a nested record contributes. -/
def clauseResult (field : String) (inner : Except SetupError (List Violation)) (c : Condition) :
    Except SetupError (List Violation) :=
  if c.operator = nestedOperator then inner
  else .error (.unsupportedOperator field c.operator)

theorem Walk.perClause_eq_together (field : String) (depth : Nat) (inner : Walk) :
    ∀ conditions : List Condition,
      (perClause field depth inner conditions).result
        = together (conditions.map (clauseResult field inner.result))
  | [] => rfl
  | c :: cs => by
      rw [List.map_cons, together, ← perClause_eq_together field depth inner cs, clauseResult]
      by_cases hc : c.operator = nestedOperator
      · rw [perClause_cons_nested hc, if_pos hc, result_andThen, result_after]
        rfl
      · rw [perClause_cons_other hc, if_neg hc]
        rfl

/-- **A nested record contributes the same violations in whatever order the clauses stand.** -/
theorem Walk.perRule_reordered (field : String) (depth : Nat) {rule rule' : String}
    {inner inner' : Walk} (hrule : Rule.Reordered rule rule')
    (h : SameUpToOrder inner.result inner'.result) :
    SameUpToOrder (perRule field rule depth inner).result
      (perRule field rule' depth inner').result := by
  have hclause : ∀ c, SameUpToOrder (clauseResult field inner.result c)
      (clauseResult field inner'.result c) := by
    intro c
    unfold clauseResult
    by_cases hc : c.operator = nestedOperator
    · rw [if_pos hc, if_pos hc]
      exact h
    · rw [if_neg hc, if_neg hc]
      exact .refl _
  rcases hrule.parse.error_or_ok with ⟨d, e, hd, he⟩ | ⟨cs, cs', hcs, hcs', hconditions⟩
  · rw [perRule_of_error hd, perRule_of_error he]
    exact .error d e
  · rw [perRule_of_ok hcs, perRule_of_ok hcs', perClause_eq_together, perClause_eq_together]
    exact (together_map hclause _).trans (together_perm (hconditions.map _))

variable [PatternEngine] (config : Config)

theorem walkFields_eq_together (depth : Nat) : ∀ fields : List Field,
    (walkFields config depth fields).result
      = together (fields.map fun field => (field.walk config depth).result)
  | [] => rfl
  | field :: fields => by
      rw [walkFields_cons, Walk.result_andThen, walkFields_eq_together depth fields]
      rfl

theorem walkFields_perm (depth : Nat) {fields fields' : List Field} (h : fields.Perm fields') :
    SameUpToOrder (walkFields config depth fields).result
      (walkFields config depth fields').result := by
  rw [walkFields_eq_together, walkFields_eq_together]
  exact together_perm (h.map _)

mutual

/-- **Walks through reordered records come to the same**, up to order. -/
theorem Record.Reordered.walk (depth : Nat) : ∀ {r s : Record}, Record.Reordered r s →
    SameUpToOrder (r.walk config depth).result (s.walk config depth).result
  | _, _, .unreadable e => .error e e
  | _, _, .ofFields h hperm => by
      rw [Record.walk_ofFields, Record.walk_ofFields, Walk.result_ofRecord, Walk.result_ofRecord]
      exact (FieldsReordered.walk depth h).trans (walkFields_perm config depth hperm)

theorem FieldsReordered.walk (depth : Nat) : ∀ {fields fields' : List Field},
    FieldsReordered fields fields' →
      SameUpToOrder (walkFields config depth fields).result
        (walkFields config depth fields').result
  | _, _, .nil => .refl _
  | _, _, .leaf name hrule h hs => by
      rw [walkFields_leaf, walkFields_leaf, Walk.result_andThen, Walk.result_andThen]
      exact (h.outcome config name hrule).append (FieldsReordered.walk depth hs)
  | _, _, .record name hrule h hs => by
      have hinner := Walk.perRule_reordered name (depth + 1) hrule
        (Record.Reordered.walk (depth + 1) h)
      rw [walkFields_record, walkFields_record, Walk.result_andThen, Walk.result_andThen,
        Walk.result_after, Walk.result_after]
      exact hinner.append (FieldsReordered.walk depth hs)

end

variable {config}

/-- **Order is presentation only.** A record that differs from another one in the order of fields,
    clauses and elements alone has a report exactly when the other one has, and then both report
    the same violations, each as often as the other. -/
theorem reordered_same_violations {r s : Record} (h : Record.Reordered r s) :
    ((∃ e, config.report r = .error e) ↔ ∃ e, config.report s = .error e) ∧
    ∀ a b, config.report r = .ok a → config.report s = .ok b →
      a.violations.Perm b.violations ∧ ∀ v, a.violations.count v = b.violations.count v := by
  rcases (h.walk config 0).error_or_ok with ⟨d, e, hd, he⟩ | ⟨us, vs, hus, hvs, hperm⟩
  · have hr : config.report r = .error d := report_eq_error.mpr hd
    have hs : config.report s = .error e := report_eq_error.mpr he
    refine ⟨⟨fun _ => ⟨e, hs⟩, fun _ => ⟨d, hr⟩⟩, fun a b ha hb => ?_⟩
    rw [hr] at ha
    cases ha
  · have hr : config.report r = .ok ⟨us⟩ := report_eq_ok.mpr hus
    have hs : config.report s = .ok ⟨vs⟩ := report_eq_ok.mpr hvs
    refine ⟨⟨?_, ?_⟩, fun a b ha hb => ?_⟩
    · rintro ⟨e, he⟩
      rw [hr] at he
      cases he
    · rintro ⟨e, he⟩
      rw [hs] at he
      cases he
    · rw [hr] at ha
      rw [hs] at hb
      cases ha
      cases hb
      exact ⟨hperm, hperm.count_eq⟩

end Records

/-- A sequence and a string in a nested record, and a number behind it. -/
def nestedFirst : Record :=
  .ofFields
    [.mk "inner" "nested|nested:x" (.record (.ofFields
      [.mk "codes" "min:5|max:8" (.leaf (.intSeq [3, 9])),
       .mk "s" "len:2|in:b" (.leaf (.str "a"))])),
     .mk "n" "max:1" (.leaf (.int 2))]

/-- The same with fields, clauses and elements in another order, on both levels. -/
def nestedLast : Record :=
  .ofFields
    [.mk "n" "max:1" (.leaf (.int 2)),
     .mk "inner" "nested:x|nested" (.record (.ofFields
      [.mk "s" "in:b|len:2" (.leaf (.str "a")),
       .mk "codes" "max:8|min:5" (.leaf (.intSeq [9, 3]))]))]

theorem nestedFirst_reordered : Record.Reordered nestedFirst nestedLast := by
  have hnested : Rule.Reordered "nested|nested:x" "nested:x|nested" := .swap _ _ []
  have hcodes : Rule.Reordered "min:5|max:8" "max:8|min:5" := .swap _ _ []
  have hs : Rule.Reordered "len:2|in:b" "in:b|len:2" := .swap _ _ []
  have hn : Rule.Reordered "max:1" "max:1" := .refl _
  have hinner : Record.Reordered
      (.ofFields [.mk "codes" "min:5|max:8" (.leaf (.intSeq [3, 9])),
        .mk "s" "len:2|in:b" (.leaf (.str "a"))])
      (.ofFields [.mk "s" "in:b|len:2" (.leaf (.str "a")),
        .mk "codes" "max:8|min:5" (.leaf (.intSeq [9, 3]))]) :=
    .ofFields (.leaf "codes" hcodes (.intSeq (.swap _ _ [])) (.leaf "s" hs (.same _) .nil))
      (.swap _ _ [])
  exact .ofFields (.record "inner" hnested hinner (.leaf "n" hn (.same _) .nil)) (.swap _ _ [])

open scoped Pattern

/-- Nine violations in two orders. -/
theorem reordered_same_violations_nestedFirst :
    Record.Reordered nestedFirst nestedLast ∧
      ∃ a b, Config.standard.report nestedFirst = .ok a ∧
        Config.standard.report nestedLast = .ok b ∧ a ≠ b ∧ a.length = 9 ∧
        a.violations.Perm b.violations := by
  have ha : Config.standard.report nestedFirst
      = .ok ⟨[⟨"codes", .intMin⟩, ⟨"codes", .intMax⟩, ⟨"s", .strLen⟩, ⟨"s", .strIn⟩,
        ⟨"codes", .intMin⟩, ⟨"codes", .intMax⟩, ⟨"s", .strLen⟩, ⟨"s", .strIn⟩,
        ⟨"n", .intMax⟩]⟩ := rfl
  have hb : Config.standard.report nestedLast
      = .ok ⟨[⟨"n", .intMax⟩, ⟨"s", .strIn⟩, ⟨"s", .strLen⟩, ⟨"codes", .intMax⟩,
        ⟨"codes", .intMin⟩, ⟨"s", .strIn⟩, ⟨"s", .strLen⟩, ⟨"codes", .intMax⟩,
        ⟨"codes", .intMin⟩]⟩ := rfl
  have hperm := (reordered_same_violations nestedFirst_reordered).2 _ _ ha hb
  exact ⟨nestedFirst_reordered, _, _, ha, hb, by decide, rfl, hperm.1⟩

end RecordRules
