/-!
# Reading integers

An integer is written as an optional sign and decimal digits, nothing else. Digits are taken from
left to right, and the first problem met decides what is wrong with the text (`IntegerFault`): a
character that is no digit, or a digit at which the value leaves its bounds. At one character the
former is looked for first.

* `readMagnitude` reads digits up to a bound;
* `readInteger` reads a signed integer of 64 bits, with `+` or `-` in front;
* `readNatural` reads an unsigned integer of 64 bits, with `+` in front; there `-` is no sign.
-/

namespace RecordRules

/-- What is wrong with the text of an integer. -/
inductive IntegerFault where
  /-- There is no text at all. -/
  | empty
  /-- A character is no digit, or there is no digit behind the sign. -/
  | invalidDigit
  /-- The value is above the greatest one. -/
  | tooLarge
  /-- The value is below the least one. -/
  | tooSmall
  deriving DecidableEq, Repr

/-- The fault in words. -/
def IntegerFault.message : IntegerFault → String
  | .empty => "cannot parse integer from empty string"
  | .invalidDigit => "invalid digit found in string"
  | .tooLarge => "number too large to fit in target type"
  | .tooSmall => "number too small to fit in target type"

/-- The least signed integer of 64 bits. -/
def leastInteger : Int := -0x8000000000000000

/-- The greatest signed integer of 64 bits. -/
def greatestInteger : Int := 0x7FFFFFFFFFFFFFFF

/-- The greatest unsigned integer of 64 bits. -/
def greatestNatural : Nat := 0xFFFFFFFFFFFFFFFF

/-- The value of a decimal digit. -/
def digit? (c : Char) : Option Nat :=
  if '0' ≤ c ∧ c ≤ '9' then some (c.toNat - '0'.toNat) else none

/-- Takes digits behind the value `n` while it stays within `bound`; `beyond` is the fault of
    leaving it. -/
def readMagnitude (bound : Nat) (beyond : IntegerFault) (n : Nat) :
    List Char → Except IntegerFault Nat
  | [] => .ok n
  | c :: cs =>
    match digit? c with
    | none => .error .invalidDigit
    | some d =>
      if 10 * n + d ≤ bound then readMagnitude bound beyond (10 * n + d) cs else .error beyond

/-- At least one digit, and nothing else. -/
def readDigits (bound : Nat) (beyond : IntegerFault) (cs : List Char) : Except IntegerFault Nat :=
  if cs = [] then .error .invalidDigit else readMagnitude bound beyond 0 cs

/-- A signed integer of 64 bits. -/
def readInteger (text : String) : Except IntegerFault Int :=
  match text.toList with
  | [] => .error .empty
  | '+' :: digits => (readDigits greatestInteger.toNat .tooLarge digits).map Int.ofNat
  | '-' :: digits => (readDigits (-leastInteger).toNat .tooSmall digits).map fun n => -(n : Int)
  | digits => (readDigits greatestInteger.toNat .tooLarge digits).map Int.ofNat

/-- An unsigned integer of 64 bits. -/
def readNatural (text : String) : Except IntegerFault Nat :=
  match text.toList with
  | [] => .error .empty
  | '+' :: digits => readDigits greatestNatural .tooLarge digits
  | digits => readDigits greatestNatural .tooLarge digits

end RecordRules
