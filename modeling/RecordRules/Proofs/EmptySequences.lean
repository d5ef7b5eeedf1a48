import Mathlib.Data.List.TakeWhile
import RecordRules.Pattern.Reader
import RecordRules.Proofs.Families
import RecordRules.Proofs.Visits

/-!
# The two policies for empty sequences

Two validations that differ in nothing but the policy for empty sequences run alike until one of
them meets a decisive field: a sequence without elements, under a rule that can be read and whose
conditions can all be resolved. There the one that refuses empty sequences ends, with an error for
that field, and the other one goes on.

* `Field.isDecisive` says which fields these are, without any configuration, and `firstDecisive?`
  is the first of them among the visits of a validation, up to the first visit that fails;
* `Leaf.outcome_cases`: a leaf has another outcome under the other policy exactly when its field is
  decisive;
* `Walk.AlikeUntil` is what two walks have in common: they are the same, or there is a decisive
  field and the strict walk ends at the first one. Walks in a row keep it
  (`Walk.AlikeUntil.andThen`), and so does everything that is built from them.

**`policies_differ_at_firstDecisive`** says it of whole validations.
-/

namespace RecordRules

/-! ## 1. Visits that are reached, and decisive fields -/

/-- Whether a rule can be read and all its conditions resolved. -/
def Rule.resolves (C : Type) {V : Type} [ConstraintFamily C V] (field rule : String) : Bool :=
  match Rule.parse rule with
  | .error _ => false
  | .ok conditions => conditions.all fun c => (resolve field c : Except SetupError C).isOk

/-- The visits in front of the first that fails. -/
def reached (visits : List Visit) : List Visit := visits.takeWhile fun v => !v.failed

section Visits

variable {us vs : List Visit}

theorem not_failed_of_collect {ws : List Violation} (h : collect us = .ok ws) :
    ∀ u ∈ us, (!u.failed) = true := by
  obtain ⟨parts, hparts, -⟩ := collect_eq_ok.mp h
  intro u hu
  have hout : u.outcome ∈ parts.map Except.ok := hparts ▸ List.mem_map_of_mem hu
  obtain ⟨part, -, hpart⟩ := List.mem_map.mp hout
  rw [Visit.failed, ← hpart]
  rfl

/-- Behind visits that all succeed further ones are reached. -/
theorem reached_append_of_ok {ws : List Violation} (h : collect us = .ok ws) (vs : List Visit) :
    reached (us ++ vs) = us ++ reached vs :=
  List.takeWhile_append_of_pos (not_failed_of_collect h)

/-- Behind one that fails none is. -/
theorem reached_append_of_error {e : SetupError} (h : collect us = .error e) (vs : List Visit) :
    reached (us ++ vs) = reached us := by
  obtain ⟨v, hv, -⟩ := collect_eq_error.mp h
  obtain ⟨hfailed, front, back, rfl, hfront⟩ := List.find?_eq_some_iff_append.mp hv
  have hstop : ∀ rest, List.takeWhile (fun v : Visit => !v.failed) (v :: rest) = [] := by
    intro rest
    rw [List.takeWhile_cons, hfailed]
    rfl
  rw [reached, reached, List.append_assoc, List.takeWhile_append_of_pos hfront,
    List.takeWhile_append_of_pos hfront, List.cons_append, hstop, hstop]

variable [PatternEngine]

/-- Whether a field is a sequence without elements under a rule with nothing wrong in it. -/
def Field.isDecisive : Field → Bool
  | .mk name rule (.leaf (.strSeq [])) => Rule.resolves StringConstraint name rule
  | .mk name rule (.leaf (.intSeq [])) => Rule.resolves IntConstraint name rule
  | _ => false

/-- The first decisive field, unless a visit fails before. -/
def firstDecisive? (visits : List Visit) : Option Field :=
  ((reached visits).filterMap Visit.field?).find? Field.isDecisive

theorem firstDecisive?_append_of_ok {ws : List Violation} (h : collect us = .ok ws)
    (vs : List Visit) :
    firstDecisive? (us ++ vs) = (firstDecisive? us).or (firstDecisive? vs) := by
  have hus : reached us = us := List.takeWhile_eq_self_iff.mpr (not_failed_of_collect h)
  rw [firstDecisive?, reached_append_of_ok h, List.filterMap_append, List.find?_append,
    firstDecisive?, hus, firstDecisive?]

theorem firstDecisive?_append_of_error {e : SetupError} (h : collect us = .error e)
    (vs : List Visit) : firstDecisive? (us ++ vs) = firstDecisive? us := by
  rw [firstDecisive?, reached_append_of_error h, firstDecisive?]

theorem firstDecisive?_singleton (depth : Nat) (field : Field) (us : List Violation) :
    firstDecisive? [⟨depth, some field, .ok us⟩]
      = if field.isDecisive then some field else none := by
  show List.find? Field.isDecisive [field] = _
  rw [List.find?_singleton]

end Visits

/-! ## 2. Leaves -/

section Rules

variable (C : Type) {V : Type} [ConstraintFamily C V] (field rule : String)

/-- All constraints are there when each of them is. -/
theorem exists_resolveAll_iff (conditions : List Condition) :
    (∃ constraints, resolveAll C field conditions = .ok constraints) ↔
      (conditions.all fun c => (resolve field c : Except SetupError C).isOk) = true := by
  simp only [resolveAll_eq_mapM, exists_mapM_iff, List.all_eq_true, isOk_iff]

theorem Rule.resolves_iff :
    Rule.resolves C field rule = true ↔
      ∃ constraints : List C, Rule.ResolvesTo field rule constraints := by
  unfold Rule.resolves Rule.ResolvesTo
  cases Rule.parse rule with
  | error e => simp
  | ok conditions =>
      simp only [Except.ok.injEq, exists_eq_left']
      exact (exists_resolveAll_iff C field conditions).symm

/-- Without values nothing can be violated, and all that can go wrong is the rule. -/
theorem checkValues_nil_cases :
    (Rule.resolves C field rule = true ∧ checkValues C field rule [] = .ok []) ∨
      (Rule.resolves C field rule = false ∧ ∃ e, checkValues C field rule [] = .error e) := by
  by_cases hrule : ∃ constraints : List C, Rule.ResolvesTo field rule constraints
  · obtain ⟨constraints, hconstraints⟩ := hrule
    exact Or.inl ⟨(Rule.resolves_iff C field rule).mpr ⟨constraints, hconstraints⟩,
      checkValues_eq_ok_iff.mpr ⟨constraints, hconstraints, rfl⟩⟩
  · obtain ⟨e, he⟩ := checkValues_of_unresolved C hrule
    refine Or.inr ⟨Bool.eq_false_iff.mpr fun h => ?_, e, he []⟩
    exact hrule ((Rule.resolves_iff C field rule).mp h)

end Rules

section Policies

variable {vacuous strict : Config} (hv : vacuous.emptySequence = .vacuous)
  (hs : strict.emptySequence = .reject)

include hv in
theorem not_refuses_of_vacuous {α : Type} (items : List α) : vacuous.refuses items = false := by
  rw [Config.refuses, hv]
  exact Bool.and_false _

include hs in
theorem refuses_of_reject {α : Type} (items : List α) : strict.refuses items = items.isEmpty := by
  rw [Config.refuses, hs]
  exact Bool.and_true _

include hv hs in
/-- The emptiness of a sequence is looked at behind its rule, and only under the strict policy. -/
theorem checkSequence_cases (C : Type) {V : Type} [ConstraintFamily C V] (field rule : String)
    (items : List V) :
    (items = [] ∧ Rule.resolves C field rule = true ∧
        vacuous.checkSequence C field rule items = .ok [] ∧
        strict.checkSequence C field rule items = .error (.emptySequence field)) ∨
      ((items = [] → Rule.resolves C field rule = false) ∧
        strict.checkSequence C field rule items = vacuous.checkSequence C field rule items) := by
  unfold Config.checkSequence
  rw [not_refuses_of_vacuous hv, refuses_of_reject hs]
  cases items with
  | cons item items => exact Or.inr ⟨nofun, rfl⟩
  | nil =>
      rcases checkValues_nil_cases C field rule with ⟨hrule, hok⟩ | ⟨hrule, e, herror⟩
      · rw [hok]
        exact Or.inl ⟨rfl, hrule, rfl, rfl⟩
      · rw [herror]
        exact Or.inr ⟨fun _ => hrule, rfl⟩

include hv hs in
/-- **A leaf has the same outcome under both policies unless its field is decisive.** -/
theorem Leaf.outcome_cases [PatternEngine] (name rule : String) (v : Leaf) :
    ((Field.mk name rule (.leaf v)).isDecisive = true ∧ v.outcome vacuous name rule = .ok [] ∧
        v.outcome strict name rule = .error (.emptySequence name)) ∨
      ((Field.mk name rule (.leaf v)).isDecisive = false ∧
        v.outcome strict name rule = v.outcome vacuous name rule) := by
  cases v with
  | str s | int n | other typeName | mismatch expected actual => exact Or.inr ⟨rfl, rfl⟩
  | strSeq items =>
      rcases checkSequence_cases hv hs StringConstraint name rule items with
        ⟨rfl, hrule, hvacuous, hstrict⟩ | ⟨hrule, heq⟩
      · exact Or.inl ⟨hrule, hvacuous, hstrict⟩
      · refine Or.inr ⟨?_, heq⟩
        cases items with
        | nil => exact hrule rfl
        | cons item items => rfl
  | intSeq items =>
      rcases checkSequence_cases hv hs IntConstraint name rule items with
        ⟨rfl, hrule, hvacuous, hstrict⟩ | ⟨hrule, heq⟩
      · exact Or.inl ⟨hrule, hvacuous, hstrict⟩
      · refine Or.inr ⟨?_, heq⟩
        cases items with
        | nil => exact hrule rfl
        | cons item items => rfl

end Policies

/-! ## 3. Walks that are alike until a decisive field -/

section Records

variable [PatternEngine]

/-- Two walks, the first of them with given visits: they are the same when no decisive field is
    reached, and otherwise the second ends with an error for the first one. -/
inductive Walk.AlikeUntil (w strict : Walk) (visits : List Visit) : Prop where
  /-- No decisive field is reached. -/
  | alike (first : firstDecisive? visits = none) (same : strict = w)
  /-- There is a first one. -/
  | refused {field : Field} (first : firstDecisive? visits = some field)
      (result : strict.result = .error (.emptySequence field.name))

namespace Walk.AlikeUntil

variable {w w' v v' : Walk} {us vs : List Visit}

theorem after (event : Event) (h : AlikeUntil w w' us) :
    AlikeUntil (w.after event) (w'.after event) us := by
  cases h with
  | alike first same => exact .alike first (by rw [same])
  | refused first result => exact .refused first result

/-- The second walks count only where the first one gets to its end. -/
theorem andThen (hw : w.result = collect us) (h : AlikeUntil w w' us) (hv : AlikeUntil v v' vs) :
    AlikeUntil (w.andThen v) (w'.andThen v') (us ++ vs) := by
  cases hus : collect us with
  | error e =>
      have hfirst : firstDecisive? (us ++ vs) = firstDecisive? us :=
        firstDecisive?_append_of_error hus vs
      rw [hus] at hw
      cases h with
      | alike first same =>
          refine .alike (hfirst.trans first) ?_
          rw [same, andThen_of_error hw, andThen_of_error hw]
      | refused first result =>
          refine .refused (hfirst.trans first) ?_
          rw [andThen_of_error result]
  | ok ws =>
      have hfirst : firstDecisive? (us ++ vs) = (firstDecisive? us).or (firstDecisive? vs) :=
        firstDecisive?_append_of_ok hus vs
      rw [hus] at hw
      cases h with
      | refused first result =>
          refine .refused (by rw [hfirst, first, Option.some_or]) ?_
          rw [andThen_of_error result]
      | alike first same =>
          rw [first, Option.none_or] at hfirst
          rw [same]
          cases hv with
          | alike first' same' => exact .alike (hfirst.trans first') (by rw [same'])
          | refused first' result' =>
              refine .refused (hfirst.trans first') ?_
              rw [andThen_of_ok hw, result']
              rfl

/-- An error that both walks end with. -/
theorem fail (depth : Nat) (field? : Option Field) (e : SetupError) (visits : List Visit) :
    AlikeUntil (Walk.fail e) (Walk.fail e) (⟨depth, field?, .error e⟩ :: visits) :=
  .alike rfl rfl

theorem perClause (field : Field) (depth : Nat) (hw : w.result = collect us)
    (h : AlikeUntil w w' us) : ∀ conditions : List Condition,
      AlikeUntil (Walk.perClause field.name (depth + 1) w conditions)
        (Walk.perClause field.name (depth + 1) w' conditions)
        (clauseVisits depth field us conditions)
  | [] => .alike rfl rfl
  | c :: cs => by
      have hrest := perClause field depth hw h cs
      unfold clauseVisits at hrest ⊢
      rw [List.flatMap_cons]
      by_cases hc : c.operator = nestedOperator
      · rw [perClause_cons_nested hc, perClause_cons_nested hc, if_pos hc]
        exact (h.after _).andThen hw hrest
      · rw [perClause_cons_other hc, perClause_cons_other hc, if_neg hc]
        exact fail depth (some field) _ _

theorem perRule (field : Field) (depth : Nat) (hw : w.result = collect us)
    (h : AlikeUntil w w' us) :
    AlikeUntil (Walk.perRule field.name field.rule (depth + 1) w)
      (Walk.perRule field.name field.rule (depth + 1) w') (ruleVisits depth field us) := by
  unfold ruleVisits
  cases hp : Rule.parse field.rule with
  | error e =>
      rw [perRule_of_error hp, perRule_of_error hp]
      exact fail depth (some field) e []
  | ok conditions =>
      rw [perRule_of_ok hp, perRule_of_ok hp]
      exact h.perClause field depth hw conditions

theorem ofRecord (fields depth : Nat) (h : AlikeUntil w w' us) :
    AlikeUntil (w.ofRecord fields depth) (w'.ofRecord fields depth) us := by
  cases h with
  | alike first same => exact .alike first (by rw [same])
  | refused first result => exact .refused first ((result_ofRecord _ _ _).trans result)

end Walk.AlikeUntil

variable {vacuous strict : Config}

theorem Leaf.alikeUntil (hv : vacuous.emptySequence = .vacuous)
    (hs : strict.emptySequence = .reject) (depth : Nat) (name rule : String) (v : Leaf)
    (event : Event) :
    Walk.AlikeUntil ⟨[event], v.outcome vacuous name rule⟩ ⟨[event], v.outcome strict name rule⟩
      [⟨depth, some (.mk name rule (.leaf v)), v.outcome vacuous name rule⟩] := by
  rcases Leaf.outcome_cases hv hs name rule v with ⟨hdecisive, hok, herror⟩ | ⟨hdecisive, heq⟩
  · have hfirst : firstDecisive? [⟨depth, some (.mk name rule (.leaf v)), .ok []⟩]
        = some (.mk name rule (.leaf v)) := by
      rw [firstDecisive?_singleton, if_pos hdecisive]
    rw [hok]
    exact .refused hfirst herror
  · refine .alike ?_ (by rw [heq])
    cases v.outcome vacuous name rule with
    | error e => rfl
    | ok us => rw [firstDecisive?_singleton, hdecisive, if_neg Bool.false_ne_true]

mutual

/-- **Walks under the two policies are alike until the first decisive field.** -/
theorem Record.walk_alikeUntil (hv : vacuous.emptySequence = .vacuous)
    (hs : strict.emptySequence = .reject) (depth : Nat) : ∀ record : Record,
      Walk.AlikeUntil (record.walk vacuous depth) (record.walk strict depth)
        (record.visits vacuous depth)
  | .unreadable e => .alike rfl rfl
  | .ofFields fields => by
      rw [Record.walk_ofFields, Record.walk_ofFields, Record.visits]
      exact (walkFields_alikeUntil hv hs depth fields).ofRecord fields.length depth

theorem walkFields_alikeUntil (hv : vacuous.emptySequence = .vacuous)
    (hs : strict.emptySequence = .reject) (depth : Nat) : ∀ fields : List Field,
      Walk.AlikeUntil (walkFields vacuous depth fields) (walkFields strict depth fields)
        (fieldVisits vacuous depth fields)
  | [] => .alike rfl rfl
  | .mk name rule (.leaf v) :: fields => by
      have hleaf := Leaf.alikeUntil hv hs depth name rule v (.dispatching name v.kind rule depth)
      rw [walkFields_leaf, walkFields_leaf, fieldVisits]
      exact hleaf.andThen (collect_singleton depth _ _).symm
        (walkFields_alikeUntil hv hs depth fields)
  | .mk name rule (.record inner) :: fields => by
      have hinner : (inner.walk vacuous (depth + 1)).result
          = collect (inner.visits vacuous (depth + 1)) :=
        Record.walk_result vacuous (depth + 1) inner
      have hresult := Walk.perRule_result depth (.mk name rule (.record inner)) hinner
      have hnested := (Record.walk_alikeUntil hv hs (depth + 1) inner).perRule
        (.mk name rule (.record inner)) depth hinner
      rw [walkFields_record, walkFields_record, fieldVisits]
      exact (hnested.after (.dispatching name .record rule depth)).andThen hresult
        (walkFields_alikeUntil hv hs depth fields)

end

/-! ## 4. Whole validations -/

/-- Whether the field of a visit is decisive. -/
def Visit.isDecisive (v : Visit) : Bool := v.field?.any Field.isDecisive

section FirstFailure

variable {front back : List Visit} {v : Visit}
  (hfront : ∀ u ∈ front, u.failed = false ∧ u.isDecisive = false) (hv : v.failed = true)

include hfront in
theorem not_failed_of_front : ∀ u ∈ front, (!u.failed) = true := by
  intro u hu
  rw [(hfront u hu).1]
  rfl

include hfront hv in
/-- What follows the first failing visit is not reached, and no decisive field is met before it. -/
theorem firstDecisive?_eq_none_of_failed : firstDecisive? (front ++ v :: back) = none := by
  have hreached : reached (front ++ v :: back) = front := by
    rw [reached, List.takeWhile_append_of_pos (not_failed_of_front hfront), List.takeWhile_cons,
      hv]
    exact List.append_nil front
  rw [firstDecisive?, hreached, List.find?_eq_none]
  intro field hfield hdecisive
  obtain ⟨u, hu, hofVisit⟩ := List.mem_filterMap.mp hfield
  have hnot : u.isDecisive = false := (hfront u hu).2
  rw [Visit.isDecisive, hofVisit, Option.any_some, hdecisive] at hnot
  cases hnot

include hfront hv in
/-- And the error of that visit is the result of them all. -/
theorem collect_of_failed {e : SetupError} (he : v.outcome = .error e) :
    collect (front ++ v :: back) = .error e :=
  collect_eq_error.mpr ⟨v, List.find?_eq_some_iff_append.mpr
    ⟨hv, front, back, rfl, not_failed_of_front hfront⟩, he⟩

end FirstFailure

/-- **The policies differ at decisive fields only.** Where the vacuous validation reaches none, the
    strict one has the same result and the same log. Where it reaches one, the strict one ends with
    an error for the first, whatever the vacuous one comes to. So a strict report is the vacuous one
    as well, and an error that is met before any decisive field is the error of both. -/
theorem policies_differ_at_firstDecisive (hv : vacuous.emptySequence = .vacuous)
    (hs : strict.emptySequence = .reject) (hkey : strict.annotationKey = vacuous.annotationKey)
    (record : Record) :
    (firstDecisive? (record.visits vacuous 0) = none →
      strict.validate record = vacuous.validate record) ∧
    (∀ field, firstDecisive? (record.visits vacuous 0) = some field →
      strict.report record = .error (.emptySequence field.name)) ∧
    (∀ report, strict.report record = .ok report → vacuous.report record = .ok report) ∧
    (∀ front v back e, record.visits vacuous 0 = front ++ v :: back →
      (∀ u ∈ front, u.failed = false ∧ u.isDecisive = false) → v.outcome = .error e →
        vacuous.report record = .error e ∧ strict.report record = .error e) := by
  have halike : firstDecisive? (record.visits vacuous 0) = none →
      strict.validate record = vacuous.validate record := by
    intro hnone
    cases Record.walk_alikeUntil hv hs 0 record with
    | alike _ same => rw [Config.validate, Config.validate, same, hkey]
    | refused first _ => rw [first] at hnone; cases hnone
  have hrefused : ∀ field, firstDecisive? (record.visits vacuous 0) = some field →
      strict.report record = .error (.emptySequence field.name) := by
    intro field hsome
    cases Record.walk_alikeUntil hv hs 0 record with
    | alike first _ => rw [first] at hsome; cases hsome
    | refused first result =>
        rw [first] at hsome
        cases hsome
        exact report_eq_error.mpr result
  have hsame : firstDecisive? (record.visits vacuous 0) = none →
      strict.report record = vacuous.report record := by
    intro hnone
    rw [Config.report, halike hnone, Config.report]
  refine ⟨halike, hrefused, fun report h => ?_, fun front v back e hvisits hfront he => ?_⟩
  · cases hfirst : firstDecisive? (record.visits vacuous 0) with
    | none => rw [← hsame hfirst, h]
    | some field => rw [hrefused field hfirst] at h; cases h
  · have hfailed : v.failed = true := by rw [Visit.failed, he]
    have hnone : firstDecisive? (record.visits vacuous 0) = none := by
      rw [hvisits]
      exact firstDecisive?_eq_none_of_failed hfront hfailed
    have herror : vacuous.report record = .error e := by
      rw [report_eq_error, Record.walk_result, hvisits]
      exact collect_of_failed hfront hfailed he
    exact ⟨herror, (hsame hnone).trans herror⟩

end Records

/-- A nested record that is walked through twice, with a violation and a sequence in it, and behind
    it a field of a type that takes no conditions. -/
def sequenceInside (codes : List Int) : Record :=
  .ofFields
    [.mk "inner" "nested|nested" (.record (.ofFields
      [.mk "n" "min:5" (.leaf (.int 3)), .mk "codes" "min:1|max:3" (.leaf (.intSeq codes))])),
     .mk "flag" "in:true" (.leaf (.other "bool"))]

open scoped Pattern

/-- Without elements the sequence is met in the first round, before the error behind the record. -/
theorem policies_differ_at_firstDecisive_sequenceInside :
    Config.standard.emptySequence = .vacuous ∧ Config.strict.emptySequence = .reject ∧
      Config.strict.annotationKey = Config.standard.annotationKey ∧
      Config.standard.report (sequenceInside []) = .error (.unsupportedType "flag" "bool") ∧
      Config.strict.report (sequenceInside []) = .error (.emptySequence "codes") ∧
      Config.strict.validate (sequenceInside [2])
        = Config.standard.validate (sequenceInside [2]) := by
  have hempty : firstDecisive? ((sequenceInside []).visits .standard 0)
      = some (.mk "codes" "min:1|max:3" (.leaf (.intSeq []))) := rfl
  have hfilled : firstDecisive? ((sequenceInside [2]).visits .standard 0) = none := rfl
  have hv : Config.standard.emptySequence = .vacuous := rfl
  have hs : Config.strict.emptySequence = .reject := rfl
  have hkey : Config.strict.annotationKey = Config.standard.annotationKey := rfl
  refine ⟨hv, hs, hkey, rfl, ?_, ?_⟩
  · exact (policies_differ_at_firstDecisive hv hs hkey (sequenceInside [])).2.1 _ hempty
  · exact (policies_differ_at_firstDecisive hv hs hkey (sequenceInside [2])).1 hfilled

end RecordRules
