import Mathlib.Data.Nat.Digits.Defs
import Mathlib.Tactic.Ring
import RecordRules.Integer

/-!
# Values of decimal digits

Digits are read from left to right, and the value read so far must stay within a bound. What that
comes to is said by the value of the digits as a whole, in the positional sense:

* `decimal` is the value of digits, and `decimal_cons_shift` is the step of a reader: the value read
  so far, followed by one more digit;
* `Digits` and `digitsValue` say it of characters;
* `readMagnitude_append` reads digits in front of a text at once, since the value never falls again
  once it has left the bound;
* `DigitsOutcome` holds the ways in which reading can end.

**`readDigits_eq_iff`** says that reading ends in exactly that way.
-/

namespace RecordRules

/-! ## 1. Digits -/

/-- The value of decimal digits, the first one in the highest place. -/
def decimal (digits : List Nat) : Nat := Nat.ofDigits 10 digits.reverse

theorem decimal_append (ds es : List Nat) :
    decimal (ds ++ es) = 10 ^ es.length * decimal ds + decimal es := by
  rw [decimal, List.reverse_append, Nat.ofDigits_append, List.length_reverse, Nat.add_comm]
  rfl

/-- One more digit behind the value `n`, and then the others. -/
theorem decimal_cons_shift (n d : Nat) (ds : List Nat) :
    10 ^ (d :: ds).length * n + decimal (d :: ds) = 10 ^ ds.length * (10 * n + d) + decimal ds := by
  have hd : decimal (d :: ds) = 10 ^ ds.length * d + decimal ds := by
    rw [← List.singleton_append, decimal_append]
    rfl
  rw [hd, List.length_cons, Nat.pow_succ]
  ring

/-- The value never falls when digits follow. -/
theorem le_shift (n : Nat) (ds : List Nat) : n ≤ 10 ^ ds.length * n + decimal ds :=
  Nat.le_trans (Nat.le_mul_of_pos_left n (Nat.pow_pos (by decide))) (Nat.le_add_right _ _)

/-! ## 2. Characters -/

/-- The value of a digit as a character. -/
def digitValue (c : Char) : Nat := c.toNat - '0'.toNat

/-- Every character is a digit. -/
def Digits (cs : List Char) : Prop := ∀ c ∈ cs, c.isDigit = true

instance (cs : List Char) : Decidable (Digits cs) :=
  decidable_of_iff (cs.all Char.isDigit = true) List.all_eq_true

/-- The value of digits as characters. -/
def digitsValue (cs : List Char) : Nat := decimal (cs.map digitValue)

@[simp] theorem digitsValue_nil : digitsValue [] = 0 := rfl

/-- The value of the digits in front is no greater. -/
theorem digitsValue_le_append (cs ds : List Char) : digitsValue cs ≤ digitsValue (cs ++ ds) := by
  rw [digitsValue, digitsValue, List.map_append, decimal_append]
  exact le_shift _ _

/-- Digits with a value above another one are there. -/
theorem append_ne_nil_of_lt {k : Nat} {front : List Char} (h : k < digitsValue front)
    (back : List Char) : front ++ back ≠ [] := by
  intro hnil
  rw [(List.append_eq_nil_iff.mp hnil).1, digitsValue_nil] at h
  exact Nat.not_lt_zero k h

theorem isDigit_iff {c : Char} : c.isDigit = true ↔ '0' ≤ c ∧ c ≤ '9' := by
  rw [Char.isDigit, Bool.and_eq_true, decide_eq_true_iff, decide_eq_true_iff]
  exact Iff.rfl

theorem digit?_of_isDigit {c : Char} (h : c.isDigit = true) : digit? c = some (digitValue c) :=
  if_pos (isDigit_iff.mp h)

theorem digit?_of_not_isDigit {c : Char} (h : ¬c.isDigit = true) : digit? c = none :=
  if_neg fun hc => h (isDigit_iff.mpr hc)

/-- There are only digits, or there is a first character that is none. -/
theorem digits_or_cut : ∀ cs : List Char,
    Digits cs ∨ ∃ front c back, cs = front ++ c :: back ∧ Digits front ∧ ¬c.isDigit = true
  | [] => Or.inl fun _ h => absurd h List.not_mem_nil
  | c :: cs => by
      by_cases hc : c.isDigit = true
      · rcases digits_or_cut cs with hcs | ⟨front, d, back, rfl, hfront, hd⟩
        · exact Or.inl (List.forall_mem_cons.mpr ⟨hc, hcs⟩)
        · exact Or.inr ⟨c :: front, d, back, rfl, List.forall_mem_cons.mpr ⟨hc, hfront⟩, hd⟩
      · exact Or.inr ⟨[], c, cs, rfl, fun _ h => absurd h List.not_mem_nil, hc⟩

/-! ## 3. Reading within a bound -/

section Reading

variable {bound : Nat} {beyond : IntegerFault}

/-- Digits in front are read at once. -/
theorem readMagnitude_append {n : Nat} (hn : n ≤ bound) (rest : List Char) :
    ∀ {front : List Char}, Digits front →
      readMagnitude bound beyond n (front ++ rest)
        = if 10 ^ front.length * n + digitsValue front ≤ bound then
            readMagnitude bound beyond (10 ^ front.length * n + digitsValue front) rest
          else .error beyond
  | [], _ => by
      have h : 10 ^ ([] : List Char).length * n + digitsValue [] = n := by
        rw [List.length_nil, Nat.pow_zero, Nat.one_mul, digitsValue_nil, Nat.add_zero]
      rw [h, if_pos hn, List.nil_append]
  | c :: front, hfront => by
      obtain ⟨hc, hfront⟩ := List.forall_mem_cons.mp hfront
      have hshift : 10 ^ (c :: front).length * n + digitsValue (c :: front)
          = 10 ^ front.length * (10 * n + digitValue c) + digitsValue front := by
        simpa [digitsValue] using decimal_cons_shift n (digitValue c) (front.map digitValue)
      rw [List.cons_append, readMagnitude, digit?_of_isDigit hc, hshift]
      simp only
      split
      · next hd => exact readMagnitude_append hd rest hfront
      · next hd =>
        -- the value has left the bound, and the digits behind do not bring it back
        have hle := le_shift (10 * n + digitValue c) (front.map digitValue)
        rw [List.length_map] at hle
        exact (if_neg fun h => hd (Nat.le_trans hle h)).symm

theorem readDigits_append {front : List Char} (h : Digits front) {rest : List Char}
    (hne : front ++ rest ≠ []) :
    readDigits bound beyond (front ++ rest)
      = if digitsValue front ≤ bound then readMagnitude bound beyond (digitsValue front) rest
        else .error beyond := by
  rw [readDigits, if_neg hne, readMagnitude_append (Nat.zero_le bound) rest h, Nat.mul_zero,
    Nat.zero_add]

/-- What reading at least one digit comes to. -/
inductive DigitsOutcome (bound : Nat) (beyond : IntegerFault) (cs : List Char) :
    Except IntegerFault Nat → Prop where
  /-- There is none. -/
  | nothing (h : cs = []) : DigitsOutcome bound beyond cs (.error .invalidDigit)
  /-- There are only digits, and their value is within the bound. -/
  | value (hne : cs ≠ []) (h : Digits cs) (hbound : digitsValue cs ≤ bound) :
      DigitsOutcome bound beyond cs (.ok (digitsValue cs))
  /-- A character is no digit, and the value of the digits in front of it is within the bound. -/
  | noDigit {front : List Char} {c : Char} {back : List Char} (hcs : cs = front ++ c :: back)
      (h : Digits front) (hc : ¬c.isDigit = true) (hbound : digitsValue front ≤ bound) :
      DigitsOutcome bound beyond cs (.error .invalidDigit)
  /-- The value of the digits in front is not. -/
  | beyond {front back : List Char} (hcs : cs = front ++ back) (h : Digits front)
      (hbound : bound < digitsValue front) : DigitsOutcome bound beyond cs (.error beyond)

/-- There is always a way. -/
theorem exists_digitsOutcome (bound : Nat) (beyond : IntegerFault) (cs : List Char) :
    ∃ outcome, DigitsOutcome bound beyond cs outcome := by
  rcases digits_or_cut cs with hcs | ⟨front, c, back, hcs, hfront, hc⟩
  · rcases Nat.lt_or_ge bound (digitsValue cs) with hlt | hle
    · exact ⟨_, .beyond (List.append_nil cs).symm hcs hlt⟩
    · by_cases hnil : cs = []
      · exact ⟨_, .nothing hnil⟩
      · exact ⟨_, .value hnil hcs hle⟩
  · rcases Nat.lt_or_ge bound (digitsValue front) with hlt | hle
    · exact ⟨_, .beyond hcs hfront hlt⟩
    · exact ⟨_, .noDigit hcs hfront hc hle⟩

theorem readDigits_of_outcome {cs : List Char} {outcome : Except IntegerFault Nat}
    (h : DigitsOutcome bound beyond cs outcome) : readDigits bound beyond cs = outcome := by
  cases h with
  | nothing h => exact if_pos h
  | value hne h hbound =>
      rw [← List.append_nil cs] at hne
      rw [← List.append_nil cs, readDigits_append h hne, if_pos hbound, List.append_nil]
      rfl
  | @noDigit front c back hcs h hc hbound =>
      subst hcs
      have hne : front ++ c :: back ≠ [] :=
        List.append_ne_nil_of_right_ne_nil front (List.cons_ne_nil c back)
      rw [readDigits_append h hne, if_pos hbound, readMagnitude, digit?_of_not_isDigit hc]
  | @beyond front back hcs h hbound =>
      subst hcs
      rw [readDigits_append h (append_ne_nil_of_lt hbound back), if_neg (Nat.not_le.mpr hbound)]

/-- **Reading ends in the way that the digits say.** -/
theorem readDigits_eq_iff {cs : List Char} {outcome : Except IntegerFault Nat} :
    readDigits bound beyond cs = outcome ↔ DigitsOutcome bound beyond cs outcome := by
  refine ⟨fun h => ?_, readDigits_of_outcome⟩
  obtain ⟨actual, hactual⟩ := exists_digitsOutcome bound beyond cs
  rw [readDigits_of_outcome hactual] at h
  exact h ▸ hactual

end Reading

end RecordRules
