import RecordRules.Pattern.Reader
import RecordRules.Proofs.Rule.Joining
import RecordRules.Proofs.Rule.Operands

/-!
# The integers that a rule lets pass

A rule on integers can hold any number of bounds and lists, in any order, and they may contradict
each other. Together they cut one piece out of the integers: what lies between the greatest lower
bound and the least upper bound and stands in every list.

* `IntegerCut` holds the integers of a rule, and `IntegerCut.ReadFrom` says that the operands of
  conditions denote them; there is one such cut at most (`IntegerCut.ReadFrom.unique`);
* `IntegerCut.Admits` is the piece; one more constraint makes it smaller
  (`IntegerCut.admits_cons`);
* `IntegerCut.exists_of_resolveAll`: conditions that are resolved have a cut, and their constraints
  accept what it admits.

**`integers_pass_within_cut`** says it of fields in records, with what follows for rules that admit
nothing and for rules with another clause behind them.
-/

namespace RecordRules

/-! ## 1. Cuts -/

/-- The integers in the operands of a rule, by what they are there for. -/
structure IntegerCut where
  /-- The lower bounds. -/
  lows : List Int
  /-- The upper bounds. -/
  highs : List Int
  /-- The lists of allowed integers. -/
  lists : List (List Int)
  deriving DecidableEq, Repr

namespace IntegerCut

/-- The greatest lower bound, when there is a lower bound. -/
def lower? (cut : IntegerCut) : Option Int := cut.lows.max?

/-- The least upper bound, when there is an upper bound. -/
def upper? (cut : IntegerCut) : Option Int := cut.highs.min?

/-- The integer lies between the bounds, where there are any. -/
def Between (cut : IntegerCut) (v : Int) : Prop :=
  (∀ low ∈ cut.lower?, low ≤ v) ∧ ∀ high ∈ cut.upper?, v ≤ high

/-- The integer stands in every list, where there are any. -/
def Listed (cut : IntegerCut) (v : Int) : Prop := ∀ list ∈ cut.lists, v ∈ list

/-- The integer lies between the bounds and stands in every list. -/
def Admits (cut : IntegerCut) (v : Int) : Prop := cut.Between v ∧ cut.Listed v

/-- The cut with one more constraint in front. -/
def cons (cut : IntegerCut) : IntConstraint → IntegerCut
  | .min bound => { cut with lows := bound :: cut.lows }
  | .max bound => { cut with highs := bound :: cut.highs }
  | .among members => { cut with lists := members :: cut.lists }

/-- An integer is no smaller than the greatest lower bound when it is no smaller than any. -/
theorem forall_lower?_le_iff {cut : IntegerCut} {v : Int} :
    (∀ low ∈ cut.lower?, low ≤ v) ↔ ∀ low ∈ cut.lows, low ≤ v := by
  cases h : cut.lower? with
  | none =>
      have hnil : cut.lows = [] := List.max?_eq_none_iff.mp h
      simp [hnil]
  | some greatest =>
      have hle : greatest ≤ v ↔ ∀ low ∈ cut.lows, low ≤ v := List.max?_le_iff h
      simpa using hle

/-- And no greater than the least upper bound when it is no greater than any. -/
theorem forall_le_upper?_iff {cut : IntegerCut} {v : Int} :
    (∀ high ∈ cut.upper?, v ≤ high) ↔ ∀ high ∈ cut.highs, v ≤ high := by
  cases h : cut.upper? with
  | none =>
      have hnil : cut.highs = [] := List.min?_eq_none_iff.mp h
      simp [hnil]
  | some least =>
      have hle : v ≤ least ↔ ∀ high ∈ cut.highs, v ≤ high := List.le_min?_iff h
      simpa using hle

/-- What is admitted, told by every integer of the cut. -/
theorem admits_iff {cut : IntegerCut} {v : Int} :
    cut.Admits v ↔ (∀ low ∈ cut.lows, low ≤ v) ∧ (∀ high ∈ cut.highs, v ≤ high) ∧
      ∀ list ∈ cut.lists, v ∈ list := by
  rw [Admits, Between, forall_lower?_le_iff, forall_le_upper?_iff, and_assoc]
  exact Iff.rfl

/-- Nothing is cut off without a constraint. -/
theorem admits_nil (v : Int) : Admits ⟨[], [], []⟩ v := by
  rw [admits_iff]
  simp

/-- **One more constraint cuts off what it does not accept.** -/
theorem admits_cons {cut : IntegerCut} {k : IntConstraint} {v : Int} :
    (cut.cons k).Admits v ↔ k.accepts v = true ∧ cut.Admits v := by
  rw [admits_iff, admits_iff]
  cases k with
  | min bound =>
      have haccepts : (IntConstraint.min bound).accepts v = true ↔ bound ≤ v := by
        simp [IntConstraint.accepts]
      rw [haccepts, cons, List.forall_mem_cons, and_assoc]
  | max bound =>
      have haccepts : (IntConstraint.max bound).accepts v = true ↔ v ≤ bound := by
        simp [IntConstraint.accepts]
      rw [haccepts, cons, List.forall_mem_cons, and_assoc, and_left_comm]
  | among members =>
      have haccepts : (IntConstraint.among members).accepts v = true ↔ v ∈ members := by
        simp [IntConstraint.accepts]
      rw [haccepts, cons, List.forall_mem_cons, and_left_comm (a := v ∈ members),
        and_left_comm (a := v ∈ members)]

/-- Nothing lies between bounds in the wrong order. -/
theorem not_between_of_lt {cut : IntegerCut} {l u : Int} (hl : cut.lower? = some l)
    (hu : cut.upper? = some u) (h : u < l) (v : Int) : ¬cut.Between v := by
  intro ⟨hlower, hupper⟩
  have hlow : l ≤ v := hlower l hl
  have hhigh : v ≤ u := hupper u hu
  omega

end IntegerCut

/-! ## 2. Cuts of conditions -/

namespace Condition

/-- The operand denotes an integer. -/
def DenotesInteger (c : Condition) (n : Int) : Prop :=
  IntegerRange.signed.Denotes c.operand.toList n

/-- The parts of the operand between commas denote integers. -/
def DenotesIntegers (c : Condition) (ns : List Int) : Prop :=
  ∃ parts, Text.PartsOf ',' c.operand.toList parts ∧
    List.Forall₂ IntegerRange.signed.Denotes parts ns

end Condition

/-- What a text denotes, it denotes alone. -/
theorem IntegerRange.denotes_rightUnique (range : IntegerRange) :
    Relator.RightUnique range.Denotes := by
  intro text m n hm hn
  rw [← String.toList_ofList (l := text)] at hm hn
  have hread := read_eq_ok_iff.mpr hm
  rw [read_eq_ok_iff.mpr hn] at hread
  exact (Except.ok.inj hread).symm

theorem Condition.denotesIntegers_rightUnique : Relator.RightUnique DenotesIntegers := by
  rintro c ms ns ⟨parts, hparts, hms⟩ ⟨parts', hparts', hns⟩
  have hsame : parts = parts' :=
    (Text.partsOf_iff.mp hparts).symm.trans (Text.partsOf_iff.mp hparts')
  subst hsame
  exact IntegerRange.signed.denotes_rightUnique.forall₂ hms hns

/-- What an integer condition is resolved into. -/
theorem IntConstraint.ofCondition_eq_ok {field : String} {c : Condition} {k : IntConstraint}
    (h : ofCondition field c = .ok k) :
    (c.operator = "min" ∧ ∃ n, c.DenotesInteger n ∧ k = .min n) ∨
    (c.operator = "max" ∧ ∃ n, c.DenotesInteger n ∧ k = .max n) ∨
    (c.operator = "in" ∧ ∃ ns, c.DenotesIntegers ns ∧ k = .among ns) := by
  unfold ofCondition at h
  split at h
  · rename_i hoperator
    obtain ⟨n, hn, hk⟩ := map_eq_ok_iff.mp h
    exact Or.inl ⟨hoperator, n, readOperand_eq_ok_iff.mp hn, hk⟩
  · rename_i hoperator
    obtain ⟨n, hn, hk⟩ := map_eq_ok_iff.mp h
    exact Or.inr (Or.inl ⟨hoperator, n, readOperand_eq_ok_iff.mp hn, hk⟩)
  · rename_i hoperator
    obtain ⟨ns, hns, hk⟩ := map_eq_ok_iff.mp h
    exact Or.inr (Or.inr ⟨hoperator, ns, readOperands_eq_ok_iff.mp hns, hk⟩)
  · cases h

namespace IntegerCut

/-- The operands of the conditions denote the integers of the cut, clause by clause. -/
structure ReadFrom (cut : IntegerCut) (conditions : List Condition) : Prop where
  /-- The lower bounds. -/
  lows : List.Forall₂ Condition.DenotesInteger
    (conditions.filter fun c => c.operator = "min") cut.lows
  /-- The upper bounds. -/
  highs : List.Forall₂ Condition.DenotesInteger
    (conditions.filter fun c => c.operator = "max") cut.highs
  /-- The lists. -/
  lists : List.Forall₂ Condition.DenotesIntegers
    (conditions.filter fun c => c.operator = "in") cut.lists

/-- Conditions have one cut at most. -/
theorem ReadFrom.unique {cut other : IntegerCut} {conditions : List Condition}
    (h : cut.ReadFrom conditions) (h' : other.ReadFrom conditions) : cut = other := by
  have hinteger : Relator.RightUnique Condition.DenotesInteger :=
    fun _ _ _ hm hn => IntegerRange.signed.denotes_rightUnique hm hn
  have hlows := hinteger.forall₂ h.lows h'.lows
  have hhighs := hinteger.forall₂ h.highs h'.highs
  have hlists := Condition.denotesIntegers_rightUnique.forall₂ h.lists h'.lists
  cases cut
  cases other
  simp only at hlows hhighs hlists
  rw [hlows, hhighs, hlists]

/-- One more condition adds the constraint that it is resolved into. -/
theorem ReadFrom.cons {cut : IntegerCut} {conditions : List Condition} {field : String}
    {c : Condition} {k : IntConstraint} (hk : IntConstraint.ofCondition field c = .ok k)
    (h : cut.ReadFrom conditions) : (cut.cons k).ReadFrom (c :: conditions) := by
  rcases IntConstraint.ofCondition_eq_ok hk with
    ⟨hoperator, n, hn, rfl⟩ | ⟨hoperator, n, hn, rfl⟩ | ⟨hoperator, ns, hns, rfl⟩
  · constructor
    · simpa [hoperator, IntegerCut.cons] using ⟨hn, h.lows⟩
    · simpa [hoperator, IntegerCut.cons] using h.highs
    · simpa [hoperator, IntegerCut.cons] using h.lists
  · constructor
    · simpa [hoperator, IntegerCut.cons] using h.lows
    · simpa [hoperator, IntegerCut.cons] using ⟨hn, h.highs⟩
    · simpa [hoperator, IntegerCut.cons] using h.lists
  · constructor
    · simpa [hoperator, IntegerCut.cons] using h.lows
    · simpa [hoperator, IntegerCut.cons] using h.highs
    · simpa [hoperator, IntegerCut.cons] using ⟨hns, h.lists⟩

/-- **Resolved conditions have a cut, and it admits what all their constraints accept.** -/
theorem exists_of_resolveAll {field : String} {conditions : List Condition}
    {constraints : List IntConstraint}
    (h : resolveAll IntConstraint field conditions = .ok constraints) :
    ∃ cut : IntegerCut, cut.ReadFrom conditions ∧
      ∀ v, cut.Admits v ↔ ∀ k ∈ constraints, k.accepts v = true := by
  rw [resolveAll_eq_mapM, mapM_eq_ok_iff] at h
  induction h with
  | nil =>
      refine ⟨⟨[], [], []⟩, ⟨.nil, .nil, .nil⟩, fun v => ?_⟩
      exact ⟨fun _ k hk => absurd hk List.not_mem_nil, fun _ => admits_nil v⟩
  | @cons c k conditions constraints hk _ ih =>
      obtain ⟨cut, hread, hadmits⟩ := ih
      refine ⟨cut.cons k, hread.cons hk, fun v => ?_⟩
      rw [admits_cons, hadmits, List.forall_mem_cons]

end IntegerCut

/-! ## 3. Fields -/

section Fields

variable {config : Config} {name rule : String} {conditions : List Condition}
  {constraints : List IntConstraint} {cut : IntegerCut}

theorem mk_eq_empty_iff {us : List Violation} : Report.mk us = .empty ↔ us = [] := by
  simp [Report.empty]

section Resolved

variable (hparse : Rule.parse rule = .ok conditions)
  (hresolve : resolveAll IntConstraint name conditions = .ok constraints)
  (hadmits : ∀ v, cut.Admits v ↔ ∀ k ∈ constraints, k.accepts v = true)

include hparse hresolve hadmits

/-- Values have no violations when the cut admits all of them. -/
theorem IntegerCut.exists_checkValues (values : List Int) :
    ∃ us, checkValues IntConstraint name rule values = .ok us ∧
      (us = [] ↔ ∀ v ∈ values, cut.Admits v) := by
  have hresolves : Rule.ResolvesTo name rule constraints := ⟨conditions, hparse, hresolve⟩
  refine ⟨evaluate name constraints values, checkValues_eq_ok_iff.mpr ⟨_, hresolves, rfl⟩, ?_⟩
  simp only [evaluate_eq_nil_iff, IntConstraint.violation?_eq_none_iff, hadmits]

variable [PatternEngine]

/-- An integer has a report, and an empty one when the cut admits it. -/
theorem IntegerCut.exists_report_int (v : Int) :
    ∃ report, config.report (.single name rule (.leaf (.int v))) = .ok report ∧
      (report = .empty ↔ cut.Admits v) := by
  obtain ⟨us, hus, hnil⟩ := exists_checkValues hparse hresolve hadmits [v]
  refine ⟨⟨us⟩, ?_, ?_⟩
  · rw [report_single_leaf, Leaf.outcome, hus]
    rfl
  · rw [mk_eq_empty_iff, hnil, List.forall_mem_singleton]

/-- A sequence that is not refused has a report, and an empty one when the cut admits all of it. -/
theorem IntegerCut.exists_report_intSeq {items : List Int}
    (haccepted : ¬(items = [] ∧ config.emptySequence = .reject)) :
    ∃ report, config.report (.single name rule (.leaf (.intSeq items))) = .ok report ∧
      (report = .empty ↔ ∀ v ∈ items, cut.Admits v) := by
  obtain ⟨us, hus, hnil⟩ := exists_checkValues hparse hresolve hadmits items
  refine ⟨⟨us⟩, ?_, ?_⟩
  · rw [report_single_leaf, Leaf.outcome, checkSequence_of_accepted _ haccepted, hus]
    rfl
  · rw [mk_eq_empty_iff, hnil]

/-- An integer that the cut does not admit has violations. -/
theorem IntegerCut.report_ne_empty {v : Int} (h : ¬cut.Admits v) :
    config.report (.single name rule (.leaf (.int v))) ≠ .ok .empty := by
  obtain ⟨report, hreport, hiff⟩ := @exists_report_int config _ _ _ _ _ hparse hresolve hadmits _ v
  intro hempty
  rw [hreport, Except.ok.injEq] at hempty
  exact h (hiff.mp hempty)

/-- An empty sequence that is refused has no report. -/
theorem report_intSeq_of_refused (hreject : config.emptySequence = .reject) :
    config.report (.single name rule (.leaf (.intSeq []))) = .error (.emptySequence name) := by
  obtain ⟨us, hus, -⟩ := IntegerCut.exists_checkValues hparse hresolve hadmits []
  have hrefused := (checkSequence_eq_error_iff IntConstraint).mpr
    (Or.inr ⟨⟨us, hus⟩, ⟨rfl, hreject⟩, rfl⟩)
  rw [report_single_leaf, Leaf.outcome, hrefused]
  rfl

end Resolved

variable [PatternEngine]

/-- An integer without violations under joined rules has none under the first of them. -/
theorem report_int_eq_empty_of_join {clause : String} {v : Int}
    (h : config.report (.single name (Rule.join rule clause) (.leaf (.int v))) = .ok .empty) :
    config.report (.single name rule (.leaf (.int v))) = .ok .empty := by
  rw [report_single_leaf, Leaf.outcome] at h ⊢
  obtain ⟨us, hus, hempty⟩ := map_eq_ok_iff.mp h
  rw [eq_comm, mk_eq_empty_iff] at hempty
  subst hempty
  rw [checkValues_eq_nil_of_join IntConstraint name hus]
  rfl

/-- **A rule on integers lets one cut of them pass.** The operands of a rule that is resolved denote
    integers, and in one way only. An integer has no violations exactly when it lies between the
    greatest lower bound and the least upper bound and stands in every list, and a sequence has none
    exactly when that holds of all its elements; only where an empty sequence is refused there is
    an error in place of a report. So nothing passes bounds in the wrong order, or lists that lie
    outside the bounds, and no clause behind a rule lets pass what the rule does not. -/
theorem integers_pass_within_cut (config : Config) (name : String)
    (hparse : Rule.parse rule = .ok conditions)
    (hresolve : resolveAll IntConstraint name conditions = .ok constraints) :
    ∃ cut : IntegerCut, cut.ReadFrom conditions ∧
      (∀ other : IntegerCut, other.ReadFrom conditions → other = cut) ∧
      (∀ v : Int, ∃ report, config.report (.single name rule (.leaf (.int v))) = .ok report ∧
        (report = .empty ↔ cut.Between v ∧ cut.Listed v)) ∧
      (∀ items : List Int,
        (∃ report, config.report (.single name rule (.leaf (.intSeq items))) = .ok report ∧
          (report = .empty ↔ ∀ v ∈ items, cut.Between v ∧ cut.Listed v)) ∨
        (items = [] ∧ config.emptySequence = .reject ∧
          config.report (.single name rule (.leaf (.intSeq items)))
            = .error (.emptySequence name))) ∧
      (∀ l u : Int, cut.lower? = some l → cut.upper? = some u → u < l →
        ∀ v, config.report (.single name rule (.leaf (.int v))) ≠ .ok .empty) ∧
      ((∀ v, cut.Listed v → ¬cut.Between v) →
        ∀ v, config.report (.single name rule (.leaf (.int v))) ≠ .ok .empty) ∧
      (∀ (clause : String) (v : Int),
        config.report (.single name rule (.leaf (.int v))) ≠ .ok .empty →
          config.report (.single name (Rule.join rule clause) (.leaf (.int v))) ≠ .ok .empty) := by
  obtain ⟨cut, hread, hadmits⟩ := IntegerCut.exists_of_resolveAll hresolve
  refine ⟨cut, hread, ?_, ?_, ?_, ?_, ?_, ?_⟩
  · intro other hother
    exact hother.unique hread
  · intro v
    exact IntegerCut.exists_report_int hparse hresolve hadmits v
  · intro items
    by_cases hrefused : items = [] ∧ config.emptySequence = .reject
    · obtain ⟨rfl, hreject⟩ := hrefused
      exact Or.inr ⟨rfl, hreject, report_intSeq_of_refused hparse hresolve hadmits hreject⟩
    · exact Or.inl (IntegerCut.exists_report_intSeq hparse hresolve hadmits hrefused)
  · intro l u hl hu hlt v
    refine IntegerCut.report_ne_empty hparse hresolve hadmits ?_
    intro ⟨hbetween, _⟩
    exact IntegerCut.not_between_of_lt hl hu hlt v hbetween
  · intro hdisjoint v
    refine IntegerCut.report_ne_empty hparse hresolve hadmits ?_
    intro ⟨hbetween, hlisted⟩
    exact hdisjoint v hlisted hbetween
  · intro clause v hv hjoined
    exact hv (report_int_eq_empty_of_join hjoined)

end Fields

/-- Two lower bounds, an upper one and a list that reaches beyond them. -/
def overlappingConditions : List Condition :=
  [⟨"min", "5"⟩, ⟨"in", "3,7,9"⟩, ⟨"max", "8"⟩, ⟨"min", "-2"⟩]

/-- The integers in them. -/
def overlappingCut : IntegerCut := ⟨[5, -2], [8], [[3, 7, 9]]⟩

theorem overlappingCut_readFrom : overlappingCut.ReadFrom overlappingConditions := by
  have hnil : IntegerCut.ReadFrom ⟨[], [], []⟩ [] := ⟨.nil, .nil, .nil⟩
  have hlow : IntConstraint.ofCondition "" ⟨"min", "-2"⟩ = .ok (.min (-2)) := rfl
  have hhigh : IntConstraint.ofCondition "" ⟨"max", "8"⟩ = .ok (.max 8) := rfl
  have hlist : IntConstraint.ofCondition "" ⟨"in", "3,7,9"⟩ = .ok (.among [3, 7, 9]) := rfl
  have hfirst : IntConstraint.ofCondition "" ⟨"min", "5"⟩ = .ok (.min 5) := rfl
  exact (((hnil.cons hlow).cons hhigh).cons hlist).cons hfirst

open scoped Pattern

/-- One integer is left of them, and nothing behind a clause that it fails. -/
theorem integers_pass_within_cut_overlapping :
    Rule.parse "min:5|in:3,7,9|max:8|min:-2" = .ok overlappingConditions ∧
      resolveAll IntConstraint "port" overlappingConditions
        = .ok [.min 5, .among [3, 7, 9], .max 8, .min (-2)] ∧
      (∀ v : Int, ∃ report,
        Config.standard.report (.single "port" "min:5|in:3,7,9|max:8|min:-2" (.leaf (.int v)))
          = .ok report ∧ (report = .empty ↔ v = 7)) ∧
      (∀ clause, Config.standard.report (.single "port"
        (Rule.join "min:5|in:3,7,9|max:8|min:-2" clause) (.leaf (.int 9))) ≠ .ok .empty) := by
  have hparse : Rule.parse "min:5|in:3,7,9|max:8|min:-2" = .ok overlappingConditions := rfl
  have hresolve : resolveAll IntConstraint "port" overlappingConditions
      = .ok [.min 5, .among [3, 7, 9], .max 8, .min (-2)] := rfl
  obtain ⟨cut, -, hunique, hreport, -, -, -, hjoin⟩ :=
    integers_pass_within_cut .standard "port" hparse hresolve
  cases hunique _ overlappingCut_readFrom
  refine ⟨hparse, hresolve, fun v => ?_, fun clause => hjoin clause 9 (by decide)⟩
  obtain ⟨report, hok, hiff⟩ := hreport v
  refine ⟨report, hok, hiff.trans ?_⟩
  have hlower : overlappingCut.lower? = some 5 := by decide
  have hupper : overlappingCut.upper? = some 8 := by decide
  have hlisted : overlappingCut.Listed v ↔ v = 3 ∨ v = 7 ∨ v = 9 := by
    simp [IntegerCut.Listed, overlappingCut]
  rw [IntegerCut.Between, hlower, hupper, hlisted]
  simp only [Option.mem_some_iff, forall_eq']
  omega

end RecordRules
