/-!
# Magnitudes of floating-point numbers

A number written with a fraction or an exponent is kept in 53 binary digits. This file holds the
finite magnitudes exactly, as a significand times a power of two, and

* rounds a quotient of naturals to the nearest magnitude, to the even one in a tie
  (`Magnitude.ofRatio?`);
* multiplies and divides with one rounding;
* forms a magnitude from decimal digits and a power of ten the way numbers are read here: the
  digits are rounded, and then multiplied by or divided by a rounded power of ten
  (`Magnitude.ofDecimal?`);
* finds the shortest decimal digits that round back to a magnitude (`Magnitude.shortest`).

No magnitude is infinite: what would be one is `none`.
-/

namespace RecordRules

/-- The magnitude `significand * 2 ^ exponent`. The significand has at most 53 bits, and has that
    many unless the exponent is the least one. -/
structure Magnitude where
  /-- The significand. -/
  significand : Nat
  /-- The exponent of two. -/
  exponent : Int
  deriving DecidableEq, Repr

namespace Magnitude

/-- The least exponent. -/
def leastExponent : Int := -1074

/-- The greatest exponent. -/
def greatestExponent : Int := 971

/-- Significands are below this bound, which has one binary digit more than they do. -/
def significandLimit : Nat := 0x20000000000000

/-- The magnitude zero. -/
def zero : Magnitude := ⟨0, leastExponent⟩

/-- A quotient of two naturals scaled by a power of `base`, as a pair. -/
def scaled (base : Nat) (num den : Nat) (exponent : Int) : Nat × Nat :=
  if 0 ≤ exponent then (num * Nat.pow base exponent.toNat, den)
  else (num, den * Nat.pow base (-exponent).toNat)

/-- The quotient rounded to the nearest natural, to the even one in a tie. -/
def roundDiv (num den : Nat) : Nat :=
  let quotient := num / den
  let rest := num % den
  if den < 2 * rest ∨ (2 * rest = den ∧ quotient % 2 = 1) then quotient + 1 else quotient

/-- The magnitude nearest to a quotient with a positive denominator. -/
def ofRatio? (num den : Nat) : Option Magnitude :=
  if num = 0 then some zero
  else
    let guess : Int := max ((num.log2 : Int) - den.log2 - 53) leastExponent
    let (n, d) := scaled 2 num den (-guess)
    let exponent := if significandLimit ≤ n / d then guess + 1 else guess
    let (n, d) := scaled 2 num den (-exponent)
    let significand := roundDiv n d
    let m : Magnitude :=
      if significand = significandLimit then ⟨significandLimit / 2, exponent + 1⟩
      else ⟨significand, exponent⟩
    if m.exponent ≤ greatestExponent then some m else none

/-- The magnitude as a quotient of naturals. -/
def ratio (m : Magnitude) : Nat × Nat := scaled 2 m.significand 1 m.exponent

/-- The rounded product. -/
def mul? (a b : Magnitude) : Option Magnitude :=
  ofRatio? (a.ratio.1 * b.ratio.1) (a.ratio.2 * b.ratio.2)

/-- The rounded quotient; the divisor is not zero. -/
def div? (a b : Magnitude) : Option Magnitude :=
  ofRatio? (a.ratio.1 * b.ratio.2) (a.ratio.2 * b.ratio.1)

/-- The greatest power of ten that is used in one step. -/
def powerLimit : Nat := 308

/-- The rounded power of ten. -/
def power (n : Nat) : Magnitude := (ofRatio? (Nat.pow 10 n) 1).getD zero

/-- The magnitude of decimal digits times a power of ten, rounded after the digits, in the power
    and after the product. A power too small for one step takes two. -/
def ofDecimal? (digits : Nat) (exponent : Int) : Option Magnitude :=
  if digits = 0 then some zero
  else
    (ofRatio? digits 1).bind fun m =>
      if 0 ≤ exponent then
        if exponent ≤ powerLimit then m.mul? (power exponent.toNat) else none
      else if -powerLimit ≤ exponent then m.div? (power (-exponent).toNat)
      else if -2 * powerLimit ≤ exponent then
        (m.div? (power powerLimit)).bind fun m => m.div? (power (-exponent - powerLimit).toNat)
      else some zero

/-! ## Shortest digits -/

/-- The bounds of the values that round to a magnitude, in quarters of its last place. -/
def quarterBounds (m : Magnitude) : Nat × Nat :=
  if 2 * m.significand = significandLimit ∧ m.exponent ≠ leastExponent then
    (4 * m.significand - 1, 4 * m.significand + 2)
  else (4 * m.significand - 2, 4 * m.significand + 2)

/-- Whether `digits * 10 ^ power` rounds to the magnitude. The bounds themselves do when the
    significand is even. -/
def admits (m : Magnitude) (digits : Nat) (power : Int) : Bool :=
  let (lower, upper) := m.quarterBounds
  let (n, d) := scaled 10 (4 * digits) 1 power
  let (n, d) := scaled 2 n d (-m.exponent)
  if m.significand % 2 = 0 then lower * d ≤ n && n ≤ upper * d
  else lower * d < n && n < upper * d

/-- The digits on the grid of a power of ten that round to the magnitude; of two neighbours the
    nearer one, and in a tie the even one. -/
def digitsAt? (m : Magnitude) (power : Int) : Option Nat :=
  let (n, d) := scaled 10 m.ratio.1 m.ratio.2 (-power)
  let below := n / d
  match m.admits below power, m.admits (below + 1) power with
  | true, true => some (roundDiv n d)
  | true, false => some below
  | false, true => some (below + 1)
  | false, false => none

/-- The first grid that holds a number which rounds to the magnitude, from coarse to fine. -/
def shortestFrom (m : Magnitude) (power : Int) : Nat → Nat × Int
  | 0 => (0, 0)
  | steps + 1 =>
    match m.digitsAt? power with
    | some (digits + 1) => (digits + 1, power)
    | _ => shortestFrom m (power - 1) steps

/-- The shortest decimal digits that round back to the magnitude, with the power of ten of the last
    one. Seventeen digits always do. -/
def shortest (m : Magnitude) : Nat × Int :=
  if m.significand = 0 then (0, 0)
  else
    let bits : Int := m.exponent + m.significand.log2 + 1
    shortestFrom m (bits * 30103 / 100000 + 1) 24

end Magnitude

end RecordRules
