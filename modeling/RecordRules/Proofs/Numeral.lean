import RecordRules.Proofs.Decimal
import RecordRules.Proofs.Traversal

/-!
# Written integers

Integers are read within one of two ranges (`IntegerRange`), each with the signs that may stand in
front. What a text has to do with an integer is said here without the reader: the text is cut behind
its sign (`IntegerRange.Cut`), and what is left are digits with a value.

* `IntegerRange.Denotes`: the text is written for an integer of the range;
* `IntegerRange.Faulty`: what is wrong with a text that is not, where the first problem counts;
* `IntegerRange.holds_withSign_iff` puts the limits of a range on the value of the digits, and
  `IntegerRange.read_of_cut` is the reader behind the sign.

**`IntegerRange.read_eq_ok_iff`** and **`IntegerRange.read_eq_error_iff`** say of both readers that
they take a text for what it denotes, and refuse it for what is wrong with it.
-/

namespace RecordRules

/-- The integers that an operand can be. -/
inductive IntegerRange where
  /-- Those of 64 bits with a sign. -/
  | signed
  /-- Those of 64 bits without a sign. -/
  | unsigned
  deriving DecidableEq, Repr

namespace IntegerRange

/-! ## 1. Ranges -/

/-- The least integer. -/
def least : IntegerRange → Int
  | .signed => leastInteger
  | .unsigned => 0

/-- The greatest integer. -/
def greatest : IntegerRange → Int
  | .signed => greatestInteger
  | .unsigned => greatestNatural

/-- The signs that may stand in front. -/
def signs : IntegerRange → List Char
  | .signed => ['+', '-']
  | .unsigned => ['+']

/-- Whether an integer lies within the range. -/
def Holds (range : IntegerRange) (n : Int) : Prop := range.least ≤ n ∧ n ≤ range.greatest

instance (range : IntegerRange) (n : Int) : Decidable (range.Holds n) :=
  inferInstanceAs (Decidable (_ ∧ _))

/-- The integer of a text, or what is wrong with it. -/
def read : IntegerRange → String → Except IntegerFault Int
  | .signed, text => readInteger text
  | .unsigned, text => (readNatural text).map Int.ofNat

/-! ## 2. What texts denote -/

/-- A text is cut behind its sign. A text without a sign is left whole. -/
inductive Cut (range : IntegerRange) : List Char → Option Char → List Char → Prop where
  /-- A sign stands in front. -/
  | sign {c : Char} (h : c ∈ range.signs) (body : List Char) : Cut range (c :: body) (some c) body
  /-- The first character is no sign, or there is none. -/
  | bare {body : List Char} (h : ∀ c ∈ body.head?, c ∉ range.signs) : Cut range body none body

/-- A value with its sign. -/
def withSign (sign : Option Char) (value : Nat) : Int :=
  if sign = some '-' then -(value : Int) else value

/-- **A text is written for an integer**: at most one sign, and then at least one digit and nothing
    else, with the value of the integer. -/
def Denotes (range : IntegerRange) (text : List Char) (n : Int) : Prop :=
  ∃ sign digits, range.Cut text sign digits ∧ digits ≠ [] ∧ Digits digits ∧
    n = withSign sign (digitsValue digits) ∧ range.Holds n

/-- **What is wrong with a text** that is written for no integer of the range. -/
inductive Faulty (range : IntegerRange) (text : List Char) : IntegerFault → Prop where
  /-- There is no text. -/
  | empty (h : text = []) : Faulty range text .empty
  /-- There is a sign and nothing behind it. -/
  | loneSign {c : Char} (h : range.Cut text (some c) []) : Faulty range text .invalidDigit
  /-- A character is no digit, and no digits in front of it leave the range. -/
  | noDigit {sign : Option Char} {front : List Char} {c : Char} {back : List Char}
      (h : range.Cut text sign (front ++ c :: back)) (hfront : Digits front)
      (hc : ¬c.isDigit = true)
      (hwithin : ∀ part, part <+: front → range.Holds (withSign sign (digitsValue part))) :
      Faulty range text .invalidDigit
  /-- Digits in front leave the range upwards. -/
  | tooLarge {sign : Option Char} {front back : List Char}
      (h : range.Cut text sign (front ++ back)) (hfront : Digits front) (hsign : sign ≠ some '-')
      (hbeyond : ¬range.Holds (withSign sign (digitsValue front))) : Faulty range text .tooLarge
  /-- Digits in front leave the range downwards. -/
  | tooSmall {front back : List Char} (h : range.Cut text (some '-') (front ++ back))
      (hfront : Digits front)
      (hbeyond : ¬range.Holds (withSign (some '-') (digitsValue front))) :
      Faulty range text .tooSmall

/-! ## 3. Readers -/

/-- The greatest value of digits behind a sign. -/
def bound (range : IntegerRange) (sign : Option Char) : Nat :=
  if sign = some '-' then (-range.least).toNat else range.greatest.toNat

/-- The fault of leaving the range behind a sign. -/
def beyond (sign : Option Char) : IntegerFault :=
  if sign = some '-' then .tooSmall else .tooLarge

variable {range : IntegerRange} {text : List Char} {sign : Option Char} {body : List Char}

theorem least_le_zero (range : IntegerRange) : range.least ≤ 0 := by
  cases range <;> decide

theorem zero_le_greatest (range : IntegerRange) : 0 ≤ range.greatest := by
  cases range <;> decide

/-- A value with its sign is within the range when the value is within its bound. -/
theorem holds_withSign_iff {value : Nat} :
    range.Holds (withSign sign value) ↔ value ≤ range.bound sign := by
  have hleast := range.least_le_zero
  have hgreatest := range.zero_le_greatest
  unfold Holds withSign bound
  by_cases hsign : sign = some '-'
  · rw [if_pos hsign, if_pos hsign]
    omega
  · rw [if_neg hsign, if_neg hsign]
    omega

theorem exists_cut (range : IntegerRange) :
    ∀ text : List Char, ∃ sign body, range.Cut text sign body
  | [] => ⟨none, [], .bare (by simp)⟩
  | c :: body => by
      by_cases hc : c ∈ range.signs
      · exact ⟨some c, body, .sign hc body⟩
      · exact ⟨none, c :: body, .bare (by simpa using hc)⟩

/-- A text is cut in one way. -/
theorem Cut.unique {sign' : Option Char} {body' : List Char} (h : range.Cut text sign body)
    (h' : range.Cut text sign' body') : sign = sign' ∧ body = body' := by
  cases h with
  | sign hc body =>
      cases h' with
      | sign _ _ => exact ⟨rfl, rfl⟩
      | bare hbare => exact absurd hc (hbare _ rfl)
  | bare hbare =>
      cases h' with
      | sign hc _ => exact absurd hc (hbare _ rfl)
      | bare _ => exact ⟨rfl, rfl⟩

/-- Only an empty text is cut into nothing. -/
theorem Cut.ne_nil (h : range.Cut text sign body) (hbody : body ≠ []) : text ≠ [] := by
  cases h with
  | sign hc body => exact List.cons_ne_nil _ _
  | bare hbare => exact hbody

/-- Behind the sign digits are read. -/
theorem read_of_cut {text : String} (hne : text.toList ≠ []) (h : range.Cut text.toList sign body) :
    range.read text
      = (readDigits (range.bound sign) (beyond sign) body).map (withSign sign) := by
  cases range with
  | signed =>
      show readInteger text = _
      unfold readInteger
      generalize text.toList = cs at hne h
      cases h with
      | @sign c hc body =>
          have hsigns : c = '+' ∨ c = '-' := by simpa [signs] using hc
          rcases hsigns with rfl | rfl
          · rfl
          · have hbound : signed.bound (some '-') = (-leastInteger).toNat := rfl
            have hbeyond : beyond (some '-') = .tooSmall := rfl
            rw [hbound, hbeyond]
            cases hread : readDigits (-leastInteger).toNat .tooSmall body with
            | error fault => simp only [hread]; rfl
            | ok value => simp only [hread]; rfl
      | bare hbare =>
          split
          · exact absurd rfl hne
          · exact absurd (by decide) (hbare '+' rfl)
          · exact absurd (by decide) (hbare '-' rfl)
          · rfl
  | unsigned =>
      show (readNatural text).map Int.ofNat = _
      unfold readNatural
      generalize text.toList = cs at hne h
      cases h with
      | sign hc body =>
          cases List.mem_singleton.mp hc
          rfl
      | bare hbare =>
          split
          · exact absurd rfl hne
          · exact absurd (by decide) (hbare '+' rfl)
          · rfl

/-- Nothing is read of an empty text. -/
theorem read_of_nil {text : String} (h : text.toList = []) : range.read text = .error .empty := by
  cases range with
  | signed =>
      show readInteger text = _
      unfold readInteger
      rw [h]
  | unsigned =>
      show (readNatural text).map Int.ofNat = _
      unfold readNatural
      rw [h]
      rfl

/-- **A text is read when it denotes an integer**, and it is read as that integer. -/
theorem read_eq_ok_iff {text : String} {n : Int} :
    range.read text = .ok n ↔ range.Denotes text.toList n := by
  constructor
  · intro h
    obtain ⟨sign, body, hcut⟩ := exists_cut range text.toList
    by_cases hne : text.toList = []
    · rw [read_of_nil hne] at h
      cases h
    · rw [read_of_cut hne hcut] at h
      cases hread : readDigits (range.bound sign) (beyond sign) body with
      | error fault => rw [hread] at h; cases h
      | ok value =>
          rw [hread] at h
          cases h
          cases readDigits_eq_iff.mp hread with
          | value hbody hdigits hbound =>
              exact ⟨sign, body, hcut, hbody, hdigits, rfl, holds_withSign_iff.mpr hbound⟩
  · rintro ⟨sign, digits, hcut, hdigits, hall, rfl, hholds⟩
    have hvalue : DigitsOutcome (range.bound sign) (beyond sign) digits
        (.ok (digitsValue digits)) := .value hdigits hall (holds_withSign_iff.mp hholds)
    rw [read_of_cut (hcut.ne_nil hdigits) hcut, readDigits_of_outcome hvalue]
    rfl

theorem beyond_of_ne (h : sign ≠ some '-') : beyond sign = .tooLarge := if_neg h

/-- Digits within the bound of their sign are within the range from the first one on. -/
theorem holds_of_prefix {front part : List Char} (h : part <+: front)
    (hbound : digitsValue front ≤ range.bound sign) :
    range.Holds (withSign sign (digitsValue part)) := by
  obtain ⟨rest, rfl⟩ := h
  exact holds_withSign_iff.mpr (Nat.le_trans (digitsValue_le_append part rest) hbound)

theorem not_holds_withSign_iff {value : Nat} :
    ¬range.Holds (withSign sign value) ↔ range.bound sign < value := by
  rw [holds_withSign_iff, Nat.not_le]

/-- What is wrong with the digits behind a sign is wrong with the text. -/
theorem faulty_of_outcome (hne : text ≠ []) (hcut : range.Cut text sign body) {fault : IntegerFault}
    (h : DigitsOutcome (range.bound sign) (beyond sign) body (.error fault)) :
    range.Faulty text fault := by
  cases h with
  | nothing hbody =>
      subst hbody
      cases hcut with
      | sign hc _ => exact .loneSign (.sign hc [])
      | bare _ => exact absurd rfl hne
  | noDigit hbody hfront hc hbound =>
      subst hbody
      exact .noDigit hcut hfront hc fun part hpart => holds_of_prefix hpart hbound
  | beyond hbody hfront hbound =>
      subst hbody
      by_cases hsign : sign = some '-'
      · subst hsign
        exact .tooSmall hcut hfront (not_holds_withSign_iff.mpr hbound)
      · rw [beyond_of_ne hsign]
        exact .tooLarge hcut hfront hsign (not_holds_withSign_iff.mpr hbound)

theorem read_of_faulty_digits {text : String} (hne : text.toList ≠ [])
    (hcut : range.Cut text.toList sign body) {fault : IntegerFault}
    (h : DigitsOutcome (range.bound sign) (beyond sign) body (.error fault)) :
    range.read text = .error fault := by
  rw [read_of_cut hne hcut, readDigits_of_outcome h]
  rfl

/-- **A text is refused for what is wrong with it.** -/
theorem read_eq_error_iff {text : String} {fault : IntegerFault} :
    range.read text = .error fault ↔ range.Faulty text.toList fault := by
  constructor
  · intro h
    obtain ⟨sign, body, hcut⟩ := exists_cut range text.toList
    by_cases hne : text.toList = []
    · rw [read_of_nil hne] at h
      cases h
      exact .empty hne
    · rw [read_of_cut hne hcut, map_eq_error_iff] at h
      exact faulty_of_outcome hne hcut (readDigits_eq_iff.mp h)
  · intro h
    cases h with
    | empty hnil => exact read_of_nil hnil
    | @loneSign c hcut =>
        have hne : text.toList ≠ [] := by
          intro hnil
          rw [hnil] at hcut
          cases hcut
        exact read_of_faulty_digits hne hcut (.nothing rfl)
    | @noDigit sign front c back hcut hfront hc hwithin =>
        have hbody : front ++ c :: back ≠ [] :=
          List.append_ne_nil_of_right_ne_nil front (List.cons_ne_nil c back)
        exact read_of_faulty_digits (hcut.ne_nil hbody) hcut
          (.noDigit rfl hfront hc (holds_withSign_iff.mp (hwithin front List.prefix_rfl)))
    | @tooLarge sign front back hcut hfront hsign hbeyond =>
        have hbound := not_holds_withSign_iff.mp hbeyond
        refine read_of_faulty_digits (hcut.ne_nil (append_ne_nil_of_lt hbound back)) hcut ?_
        exact beyond_of_ne hsign ▸ .beyond rfl hfront hbound
    | @tooSmall front back hcut hfront hbeyond =>
        have hbound := not_holds_withSign_iff.mp hbeyond
        refine read_of_faulty_digits (hcut.ne_nil (append_ne_nil_of_lt hbound back)) hcut ?_
        exact .beyond rfl hfront hbound

/-- A text has one thing wrong with it, since only the first problem counts. -/
theorem Faulty.unique {fault fault' : IntegerFault} (h : range.Faulty text fault)
    (h' : range.Faulty text fault') : fault = fault' := by
  rw [← String.toList_ofList (l := text)] at h h'
  have hread := read_eq_error_iff.mpr h
  rw [read_eq_error_iff.mpr h'] at hread
  cases hread
  rfl

/-- The words for what is wrong tell which of the faults it is. -/
theorem Faulty.message_eq_iff {fault : IntegerFault} (h : range.Faulty text fault)
    (other : IntegerFault) :
    fault.message = other.message ↔ range.Faulty text other := by
  constructor
  · intro hmessage
    have hfault : fault = other := by
      revert hmessage
      cases fault <;> cases other <;> decide
    exact hfault ▸ h
  · intro hother
    rw [h.unique hother]

theorem faulty_empty_iff : range.Faulty text .empty ↔ text = [] := by
  constructor
  · intro h
    cases h with
    | empty hnil => exact hnil
  · exact .empty

end IntegerRange

end RecordRules
