import Mathlib.Data.List.FinRange
import Mathlib.Data.List.NodupEquivFin
import Mathlib.Data.Prod.Lex
import Mathlib.Order.Hom.Set
import RecordRules.Proofs.Families

/-!
# Violations and the pairs that fail

Evaluating goes through the values, and for each of them through the constraints. Where a value and
a constraint stand in their lists makes a pair of positions, and pairs are ordered by the value
first (`Pairing`).

* `pairings` are all of them in ascending order (`sortedLT_pairings`, `mem_pairings`), and
  evaluating takes them one by one (`evaluate_eq_filterMap`);
* `failing` are those that fail; they ascend too, and there is one violation for each of them
  (`map_evaluate`);
* `Family.violationKind` is the kind that belongs to a constraint, and a value that violates the
  constraint violates it by that kind (`Pairing.violation?_of_fails`).

**`evaluate_lists_failing`** says it of positions: the violations stand in the order of the failing
pairs, and each names the field and the kind that belongs to its constraint.
-/

namespace RecordRules

/-! ## 1. Pairs of positions -/

section Pairings

variable {C V : Type}

/-- The position of a value with that of a constraint. Pairs are ordered by the value first. -/
abbrev Pairing (constraints : List C) (values : List V) : Type :=
  Fin values.length ×ₗ Fin constraints.length

variable {constraints : List C} {values : List V}

/-- The value at the position. -/
def Pairing.value (p : Pairing constraints values) : V := values.get (ofLex p).1

/-- The constraint at the position. -/
def Pairing.constraint (p : Pairing constraints values) : C := constraints.get (ofLex p).2

variable (constraints values)

/-- All pairs, value by value. -/
def pairings : List (Pairing constraints values) :=
  (List.finRange values.length).flatMap fun i =>
    (List.finRange constraints.length).map fun j => toLex (i, j)

theorem mem_pairings (p : Pairing constraints values) : p ∈ pairings constraints values := by
  refine List.mem_flatMap.mpr ⟨(ofLex p).1, List.mem_finRange _, ?_⟩
  exact List.mem_map.mpr ⟨(ofLex p).2, List.mem_finRange _, rfl⟩

/-- The pairs ascend. -/
theorem sortedLT_pairings : (pairings constraints values).SortedLT := by
  refine List.Pairwise.sortedLT (List.pairwise_flatMap.mpr ⟨fun i _ => ?_, ?_⟩)
  · -- within one value the constraints ascend
    refine List.pairwise_map.mpr ((List.pairwise_lt_finRange _).imp fun hlt => ?_)
    exact Prod.Lex.toLex_lt_toLex.mpr (Or.inr ⟨rfl, hlt⟩)
  · refine (List.pairwise_lt_finRange _).imp fun hlt => ?_
    intro p hp q hq
    obtain ⟨_, -, rfl⟩ := List.mem_map.mp hp
    obtain ⟨_, -, rfl⟩ := List.mem_map.mp hq
    exact Prod.Lex.toLex_lt_toLex.mpr (Or.inl hlt)

end Pairings

/-! ## 2. Pairs that fail -/

section Failing

variable {C V : Type} [ConstraintFamily C V] {constraints : List C} {values : List V}

/-- What the value violates of the constraint. -/
def Pairing.violation? (p : Pairing constraints values) : Option ViolationKind :=
  ConstraintFamily.violation? p.constraint p.value

/-- Whether the value violates the constraint. -/
def Pairing.Fails (p : Pairing constraints values) : Prop := p.violation?.isSome = true

instance (p : Pairing constraints values) : Decidable p.Fails :=
  inferInstanceAs (Decidable (_ = true))

variable (constraints values)

/-- The pairs that fail, in ascending order. -/
def failing : List (Pairing constraints values) :=
  (pairings constraints values).filter fun p => p.violation?.isSome

theorem mem_failing_iff (p : Pairing constraints values) :
    p ∈ failing constraints values ↔ p.Fails := by
  rw [failing, List.mem_filter, and_iff_right (mem_pairings constraints values p)]
  rfl

theorem sortedLT_failing : (failing constraints values).SortedLT :=
  ((sortedLT_pairings constraints values).pairwise.filter _).sortedLT

/-- Evaluating takes the pairs one by one. -/
theorem evaluate_eq_filterMap (field : String) :
    evaluate field constraints values
      = (pairings constraints values).filterMap fun p => p.violation?.map (Violation.mk field) := by
  rw [pairings, List.filterMap_flatMap]
  -- both lists are read by their positions
  conv_lhs => rw [evaluate, ← List.map_get_finRange values, List.flatMap_map]
  congr 1
  funext i
  conv_lhs => rw [violationsOf, ← List.map_get_finRange constraints, List.filterMap_map]
  rw [List.filterMap_map]
  rfl

/-- **There is one violation for every pair that fails**, in the same order. -/
theorem map_evaluate (field : String) :
    (evaluate field constraints values).map some
      = (failing constraints values).map fun p => p.violation?.map (Violation.mk field) := by
  rw [evaluate_eq_filterMap, List.map_filterMap_some_eq_filter_map_isSome, List.filter_map, failing]
  congr 2
  funext p
  exact Option.isSome_map

theorem length_evaluate (field : String) :
    (evaluate field constraints values).length = (failing constraints values).length := by
  have h := congrArg List.length (map_evaluate constraints values field)
  rwa [List.length_map, List.length_map] at h

/-- The violation at a position is that of the failing pair there. -/
theorem getElem_evaluate (field : String) (k : Fin (evaluate field constraints values).length) :
    some (evaluate field constraints values)[k]
      = ((failing constraints values).get
          (k.cast (length_evaluate constraints values field))).violation?.map
            (Violation.mk field) := by
  have h := congrArg (·[(k : Nat)]?) (map_evaluate constraints values field)
  have hk : (k : Nat) < (failing constraints values).length :=
    length_evaluate constraints values field ▸ k.isLt
  simp only [List.getElem?_map, List.getElem?_eq_getElem k.isLt, List.getElem?_eq_getElem hk,
    Option.map_some, Option.some.injEq] at h
  exact h

end Failing

/-! ## 3. Kinds of violations -/

variable [PatternEngine]

/-- The kind of violation that belongs to a constraint. -/
def Family.violationKind : (family : Family) → family.Constraint → ViolationKind
  | .string, .len _ => .strLen
  | .string, .regexp _ => .strRegexp
  | .string, .among _ => .strIn
  | .int, .min _ => .intMin
  | .int, .max _ => .intMax
  | .int, .among _ => .intIn

theorem StringConstraint.kind_eq (c : StringConstraint) :
    c.kind = Family.string.violationKind c := by
  cases c with
  | len _ | regexp _ | among _ => rfl

theorem IntConstraint.kind_eq (c : IntConstraint) : c.kind = Family.int.violationKind c := by
  cases c with
  | min _ | max _ | among _ => rfl

/-- A value passes a constraint, or it violates it by the kind that belongs to it. -/
theorem Family.violation?_cases (family : Family) (c : family.Constraint) (v : family.Value) :
    violation? c v = none ∨ violation? c v = some (family.violationKind c) := by
  cases family with
  | string =>
      cases hv : StringConstraint.accepts c v with
      | true => exact Or.inl (StringConstraint.violation?_eq_none_iff.mpr hv)
      | false =>
          exact Or.inr (StringConstraint.violation?_eq_some_iff.mpr
            ⟨hv, StringConstraint.kind_eq c⟩)
  | int =>
      cases hv : IntConstraint.accepts c v with
      | true => exact Or.inl (IntConstraint.violation?_eq_none_iff.mpr hv)
      | false =>
          exact Or.inr (IntConstraint.violation?_eq_some_iff.mpr ⟨hv, IntConstraint.kind_eq c⟩)

theorem Pairing.violation?_of_fails {family : Family} {constraints : List family.Constraint}
    {values : List family.Value} {p : Pairing constraints values} (h : p.Fails) :
    p.violation? = some (family.violationKind p.constraint) := by
  rcases family.violation?_cases p.constraint p.value with hnone | hsome
  · have hnot : p.violation?.isSome = false := congrArg Option.isSome hnone
    rw [Pairing.Fails, hnot] at h
    cases h
  · exact hsome

/-- **The violations are the pairs that fail, in ascending order.** Between the positions of the
    violations and the pairs of a value and a constraint that fail together there is a bijection
    that keeps the order, where pairs are ordered by the value first. The violation of a pair
    names the field and the kind that belongs to the constraint. -/
theorem evaluate_lists_failing (family : Family) (field : String)
    (constraints : List family.Constraint) (values : List family.Value) :
    ∃ pairAt : Fin (evaluate field constraints values).length
        ≃o { p : Pairing constraints values // p.Fails },
      ∀ k, (pairAt k).1.violation? = some (family.violationKind (pairAt k).1.constraint) ∧
        (evaluate field constraints values)[k]
          = ⟨field, family.violationKind (pairAt k).1.constraint⟩ := by
  have hlength := length_evaluate constraints values field
  have hmem : { p | p ∈ failing constraints values } = { p | Pairing.Fails p } :=
    Set.ext (mem_failing_iff constraints values)
  let byPosition := (sortedLT_failing constraints values).getIso
  refine ⟨(Fin.castOrderIso hlength).trans (byPosition.trans (OrderIso.setCongr _ _ hmem)),
    fun k => ?_⟩
  have hviolation := Pairing.violation?_of_fails
    ((mem_failing_iff constraints values _).mp (List.get_mem _ (k.cast hlength)))
  refine ⟨hviolation, Option.some.inj ?_⟩
  rw [getElem_evaluate, hviolation]
  rfl

/-- The first value fails all three constraints, the second all but the middle one. -/
example : (evaluate "ports" [IntConstraint.among [0, 11], .max 6, .min 13] [12, 5]).map (·.kind)
    = [.intIn, .intMax, .intMin, .intIn, .intMin] := by decide

end RecordRules
