import RecordRules.Pattern.Reader
import RecordRules.Proofs.Rule.Faults

/-!
# Operands that are integers

Bounds, lengths and members of integer lists are written in rules. What such an operand comes to is
said by the integer that its text denotes, and by what is wrong with a text that denotes none:

* `Rule.parse_single`: a rule of one condition with an operand, which comes to what the condition
  comes to (`Rule.single_resolvesTo_iff`, `Rule.single_error_iff`);
* `Rule.ReadsInteger`: such a rule, whose operand is an integer.

**`operands_read_exactly`** says what bounds, lengths and lists are read as.
-/

namespace RecordRules

/-! ## 1. Rules of one condition -/

/-- A rule of one condition with an operand. -/
def Rule.single (operator operand : String) : String := operator ++ ":" ++ operand

section Single

variable {operator operand : String} (h : (Condition.mk operator operand).Plain)

include h

/-- It is read into that condition. -/
theorem Rule.parse_single :
    Rule.parse (Rule.single operator operand) = .ok [⟨operator, operand⟩] := by
  have hwritten : Rule.render [(⟨operator, operand⟩, true)] = Rule.single operator operand := by
    rw [← String.toList_inj]
    simp [Rule.render, Condition.render, Rule.single]
  rw [← hwritten]
  exact Rule.parse_render (List.cons_ne_nil _ _) (List.forall_mem_singleton.mpr h)

variable {C V : Type} [ConstraintFamily C V] {field : String}

theorem Rule.single_resolvesTo_iff {constraints : List C} :
    Rule.ResolvesTo field (Rule.single operator operand) constraints ↔
      ∃ k, (resolve field ⟨operator, operand⟩ : Except SetupError C) = .ok k ∧
        constraints = [k] := by
  unfold Rule.ResolvesTo
  rw [Rule.parse_single h]
  simp only [Except.ok.injEq, exists_eq_left', resolveAll_eq_mapM, mapM_eq_ok_iff,
    List.forall₂_cons_left_iff, List.forall₂_nil_left_iff]
  exact ⟨fun ⟨k, _, hk, hnil, hks⟩ => ⟨k, hk, hnil ▸ hks⟩,
    fun ⟨k, hk, hks⟩ => ⟨k, [], hk, rfl, hks⟩⟩

variable (C) in
theorem Rule.single_error_iff {values : List V} {e : SetupError} :
    checkValues C field (Rule.single operator operand) values = .error e ↔
      (resolve field ⟨operator, operand⟩ : Except SetupError C) = .error e := by
  rw [checkValues_of_parse C (Rule.parse_single h), map_eq_error_iff, resolveAll_eq_mapM]
  cases hr : (resolve field ⟨operator, operand⟩ : Except SetupError C) with
  | error d => rw [mapM_cons_of_error hr, Except.error.injEq, Except.error.injEq]
  | ok k =>
      rw [mapM_cons_of_ok hr]
      exact ⟨fun he => (by cases he), fun he => (by cases he)⟩

end Single

/-! ## 2. One integer -/

/-- A rule of one condition, whose operand is an integer of a range. -/
structure Rule.ReadsInteger (C : Type) {V : Type} [ConstraintFamily C V] (range : IntegerRange)
    (field operator operand : String) (make : Int → C) : Prop where
  /-- It comes to the constraint with the integer that the operand denotes. -/
  resolvesTo_iff (constraints : List C) :
    Rule.ResolvesTo field (Rule.single operator operand) constraints ↔
      ∃ n, range.Denotes operand.toList n ∧ constraints = [make n]
  /-- Otherwise the error is what is wrong with the operand. -/
  error_iff (values : List V) (e : SetupError) :
    checkValues C field (Rule.single operator operand) values = .error e ↔
      ∃ fault, range.Faulty operand.toList fault ∧ e = .badOperand field operator operand fault

theorem Rule.readsInteger_of_resolve {C V : Type} [ConstraintFamily C V] {range : IntegerRange}
    {field operator operand : String} {make : Int → C}
    (hplain : (Condition.mk operator operand).Plain)
    (h : (resolve field ⟨operator, operand⟩ : Except SetupError C)
      = ((range.read operand).mapError (.badOperand field operator operand)).map make) :
    Rule.ReadsInteger C range field operator operand make := by
  constructor
  · intro constraints
    simp only [Rule.single_resolvesTo_iff hplain, h, ← IntegerRange.read_eq_ok_iff]
    cases range.read operand with
    | error fault => simp [Except.mapError, Except.map]
    | ok n => simp [Except.mapError, Except.map]
  · intro values e
    simp only [Rule.single_error_iff hplain C, h, ← IntegerRange.read_eq_error_iff]
    cases range.read operand with
    | error fault => simp [Except.mapError, Except.map, eq_comm]
    | ok n => simp [Except.mapError, Except.map]

/-! ## 3. All operands -/

section Operands

variable [PatternEngine]

/-- **Integers in rules are read exactly, up to the limits.** A bound is what its text denotes as an
    integer with a sign, a length what its text denotes as an integer without one, and a list of
    integers what its parts between commas denote. Where a text denotes no integer of the range,
    the error names the operand, or in a list the first such part, and what is wrong with it, in the
    words of the first problem in the text. -/
theorem operands_read_exactly (field : String) {operand : String} (hbar : '|' ∉ operand.toList)
    (hcolon : ':' ∉ operand.toList) :
    Rule.ReadsInteger IntConstraint .signed field "min" operand .min ∧
    Rule.ReadsInteger IntConstraint .signed field "max" operand .max ∧
    Rule.ReadsInteger StringConstraint .unsigned field "len" operand (fun n => .len n.toNat) ∧
    (∀ constraints : List IntConstraint,
      Rule.ResolvesTo field (Rule.single "in" operand) constraints ↔
        ∃ parts ns, Text.PartsOf ',' operand.toList parts ∧
          List.Forall₂ IntegerRange.signed.Denotes parts ns ∧ constraints = [.among ns]) ∧
    (∀ (values : List Int) (e : SetupError),
      checkValues IntConstraint field (Rule.single "in" operand) values = .error e ↔
        ∃ front part back fault, Text.PartsOf ',' operand.toList (front ++ part :: back) ∧
          (∀ p ∈ front, ∃ n, IntegerRange.signed.Denotes p n) ∧
          IntegerRange.signed.Faulty part fault ∧
          e = .badOperand field "in" (String.ofList part) fault) ∧
    (∀ (range : IntegerRange) (text : List Char) (fault : IntegerFault), range.Faulty text fault →
      (fault.message = "cannot parse integer from empty string" ↔ text = []) ∧
      (fault.message = "invalid digit found in string" ↔ range.Faulty text .invalidDigit) ∧
      (fault.message = "number too large to fit in target type" ↔ range.Faulty text .tooLarge) ∧
      (fault.message = "number too small to fit in target type" ↔
        range.Faulty text .tooSmall)) := by
  have hplain (operator : String) (h : '|' ∉ operator.toList ∧ ':' ∉ operator.toList) :
      (Condition.mk operator operand).Plain := ⟨h, hbar, hcolon⟩
  have hin : (resolve field ⟨"in", operand⟩ : Except SetupError IntConstraint)
      = (IntConstraint.readOperands field ⟨"in", operand⟩
          (Condition.mk "in" operand).members).map .among := rfl
  refine ⟨?_, ?_, ?_, fun constraints => ?_, fun values e => ?_, fun range text fault h => ?_⟩
  · exact Rule.readsInteger_of_resolve (hplain "min" (by decide)) rfl
  · exact Rule.readsInteger_of_resolve (hplain "max" (by decide)) rfl
  · refine Rule.readsInteger_of_resolve (hplain "len" (by decide)) ?_
    show StringConstraint.ofCondition field ⟨"len", operand⟩
      = (((readNatural operand).map Int.ofNat).mapError _).map _
    unfold StringConstraint.ofCondition
    cases readNatural operand with
    | error fault => rfl
    | ok n => rfl
  · simp only [Rule.single_resolvesTo_iff (hplain "in" (by decide)), hin, map_eq_ok_iff,
      IntConstraint.readOperands_eq_ok_iff]
    constructor
    · rintro ⟨_, ⟨ns, ⟨parts, hparts, hdenotes⟩, rfl⟩, hconstraints⟩
      exact ⟨parts, ns, hparts, hdenotes, hconstraints⟩
    · rintro ⟨parts, ns, hparts, hdenotes, hconstraints⟩
      exact ⟨_, ⟨ns, ⟨parts, hparts, hdenotes⟩, rfl⟩, hconstraints⟩
  · rw [Rule.single_error_iff (hplain "in" (by decide)) IntConstraint, hin, map_eq_error_iff,
      IntConstraint.readOperands_eq_error_iff]
  · exact ⟨(h.message_eq_iff .empty).trans IntegerRange.faulty_empty_iff,
      h.message_eq_iff .invalidDigit, h.message_eq_iff .tooLarge, h.message_eq_iff .tooSmall⟩

end Operands

section Engine

open scoped Pattern

/-- A digit leaves the range before a character that is no digit is reached. -/
theorem operands_read_exactly_beyondFirst :
    '|' ∉ "+9223372036854775808x".toList ∧ ':' ∉ "+9223372036854775808x".toList ∧
    checkValues IntConstraint "port" "max:+9223372036854775808x" [80]
      = .error (.badOperand "port" "max" "+9223372036854775808x" .tooLarge) := by
  have hbar : '|' ∉ "+9223372036854775808x".toList := by decide
  have hcolon : ':' ∉ "+9223372036854775808x".toList := by decide
  refine ⟨hbar, hcolon, ?_⟩
  obtain ⟨-, hmax, -⟩ := operands_read_exactly "port" hbar hcolon
  refine (hmax.error_iff [80] _).mpr ⟨.tooLarge, ?_, rfl⟩
  have hcut : IntegerRange.signed.Cut "+9223372036854775808x".toList (some '+')
      ("9223372036854775808".toList ++ ['x']) := .sign (by decide) _
  refine .tooLarge hcut ?_ (by decide) ?_
  · decide
  · decide

end Engine

/-- Zeros in front and a minus in front of zero are read; a minus is no sign of a length. -/
example : readInteger "-0009223372036854775808" = .ok leastInteger ∧ readInteger "-0" = .ok 0 ∧
    readNatural "-1" = .error .invalidDigit := ⟨rfl, rfl, rfl⟩

end RecordRules
