import RecordRules.Pattern.Expr

/-!
# The size of a pattern

A pattern that would need too large a machine is refused. The machine has a state for every byte
of a character, for every condition and for every branch, and a counted repetition is written out
as often as it is counted; what a state weighs, and how many a set of characters takes, is
estimated here. The limit is ten mebibytes.
-/

namespace RecordRules.Pattern

/-- What one state weighs, in bytes. -/
def stateWeight : Nat := 32

/-- The greatest weight of a machine, in bytes. -/
def weightLimit : Nat := 10 * 0x100000

/-- The weight of one range of characters: ASCII fits into one state, a range beyond ASCII takes
    about two, and a wide one splits by the length of the encoding. -/
def rangeWeight (r : Nat × Nat) : Nat :=
  if r.2 < 0x80 then 8
  else if r.2 - r.1 < 0x1000 then 2 * stateWeight
  else 28 * stateWeight

/-- The weight of one character as a chain of bytes. -/
def pointWeight (n : Nat) : Nat :=
  stateWeight * (if n < 0x80 then 1 else if n < 0x800 then 2 else if n < 0x10000 then 3 else 4)

/-- The weight of an atom. -/
def Atom.weight : Atom → Nat
  | .look _ => stateWeight
  | .chars set =>
    match set.ranges with
    | [(lo, hi)] => if lo = hi then pointWeight lo else stateWeight + rangeWeight (lo, hi)
    | ranges => ranges.foldl (fun weight range => weight + rangeWeight range) (2 * stateWeight)

/-- Whether only the empty stretch can be covered. -/
def Expr.isWidthless : Expr Atom → Bool
  | .empty => true
  | .atom (.look _) => true
  | .atom (.chars _) => false
  | .seq a b => a.isWidthless && b.isWidthless
  | .alt a b => a.isWidthless && b.isWidthless
  | .repeated body _ most => body.isWidthless || most == some 0
  | .group body => body.isWidthless

/-- The weight of an expression. A body that covers nothing is never written out more than
    once. -/
def Expr.weight : Expr Atom → Nat
  | .empty => stateWeight
  | .atom a => a.weight
  | .seq a b => a.weight + b.weight
  | .alt a b => a.weight + b.weight + 2 * stateWeight
  | .group body => body.weight + 2 * stateWeight
  | .repeated body least most =>
    if body.isWidthless then body.weight + 2 * stateWeight
    else
      match most with
      | none => max least 1 * body.weight + stateWeight
      | some most => least * body.weight + (most - least) * (body.weight + stateWeight)

/-- Whether the machine stays within the limit. -/
def Expr.fits (e : Expr Atom) : Bool := e.weight ≤ weightLimit

end RecordRules.Pattern
