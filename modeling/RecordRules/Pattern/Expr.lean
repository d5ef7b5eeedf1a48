import RecordRules.CharSet

/-!
# Pattern expressions and searching

A pattern expression says which stretches of a text it covers. This file fixes

* the atoms: one character out of a set, and conditions on the two neighbours of a position
  (`Look`: ends of the text, ends of a line, word boundaries);
* the expressions over atoms (`Expr`), with counted repetition as one node;
* searching. The positions of a text of `n` characters are `0 … n`, and a set of positions is a
  number whose bit `i` stands for position `i`. `Expr.ends` takes the set of positions at which a
  stretch may start and answers the set of positions at which one may end, so that all
  possibilities advance together and nothing is ever tried twice. A text is matched when some
  stretch ends anywhere (`Expr.occursIn`).

Greedy and lazy repetition cover the same stretches, so nothing here tells them apart.
-/

namespace RecordRules.Pattern

/-! ## 1. Atoms -/

/-- A condition on the character before and the character after a position. Word conditions carry
    the set of characters that count as parts of words. -/
inductive Look where
  /-- The start of the text. -/
  | textStart
  /-- The end of the text. -/
  | textEnd
  /-- The start of a line; lines end with a line feed. -/
  | lineStart
  /-- The end of a line; lines end with a line feed. -/
  | lineEnd
  /-- The start of a line; lines end with a line feed, a carriage return, or both in a row. -/
  | wideLineStart
  /-- The end of a line; lines end with a line feed, a carriage return, or both in a row. -/
  | wideLineEnd
  /-- Exactly one neighbour belongs to a word. -/
  | boundary (words : CharSet)
  /-- Both neighbours belong to words, or neither does. -/
  | noBoundary (words : CharSet)
  /-- A word starts here. -/
  | wordStart (words : CharSet)
  /-- A word ends here. -/
  | wordEnd (words : CharSet)
  /-- No word reaches up to here from the left. -/
  | wordStartHalf (words : CharSet)
  /-- No word goes on from here to the right. -/
  | wordEndHalf (words : CharSet)
  deriving Repr

/-- Whether a neighbour is there and belongs to the set. -/
def isIn (words : CharSet) : Option Char → Bool
  | none => false
  | some c => words.contains c

/-- Whether the condition holds between the two neighbours; a missing neighbour is the end of the
    text. -/
def Look.holds (before after : Option Char) : Look → Bool
  | .textStart => before.isNone
  | .textEnd => after.isNone
  | .lineStart => before.isNone || before == some '\n'
  | .lineEnd => after.isNone || after == some '\n'
  | .wideLineStart =>
    before.isNone || before == some '\n' || (before == some '\r' && after != some '\n')
  | .wideLineEnd =>
    after.isNone || after == some '\r' || (after == some '\n' && before != some '\r')
  | .boundary words => isIn words before != isIn words after
  | .noBoundary words => isIn words before == isIn words after
  | .wordStart words => !isIn words before && isIn words after
  | .wordEnd words => isIn words before && !isIn words after
  | .wordStartHalf words => !isIn words before
  | .wordEndHalf words => !isIn words after

/-- The least parts of a pattern. -/
inductive Atom where
  /-- One character out of a set. -/
  | chars (set : CharSet)
  /-- A condition on a position. -/
  | look (condition : Look)
  deriving Repr

/-! ## 2. Expressions -/

/-- A pattern over the atoms `α`. -/
inductive Expr (α : Type) where
  /-- The empty stretch. -/
  | empty
  /-- One atom. -/
  | atom (a : α)
  /-- A stretch of the first followed by one of the second. -/
  | seq (first second : Expr α)
  /-- A stretch of either. -/
  | alt (left right : Expr α)
  /-- Between `least` and `most` stretches in a row; without `most` there is no upper bound. -/
  | repeated (body : Expr α) (least : Nat) (most : Option Nat)
  /-- A group whose stretch could be asked for. -/
  | group (body : Expr α)
  deriving Repr, Inhabited

/-- Every atom replaced. -/
def Expr.map {α β : Type} (f : α → β) : Expr α → Expr β
  | .empty => .empty
  | .atom a => .atom (f a)
  | .seq a b => .seq (a.map f) (b.map f)
  | .alt a b => .alt (a.map f) (b.map f)
  | .repeated body least most => .repeated (body.map f) least most
  | .group body => .group (body.map f)

/-! ## 3. Atoms laid over a text -/

/-- The neighbours of every position of a text, in order. -/
def neighbours (before : Option Char) : List Char → List (Option Char × Option Char)
  | [] => [(before, none)]
  | c :: cs => (before, some c) :: neighbours (some c) cs

/-- A text of `n` characters has `n + 1` positions. -/
theorem length_neighbours (before : Option Char) (cs : List Char) :
    (neighbours before cs).length = cs.length + 1 := by
  induction cs generalizing before with
  | nil => rfl
  | cons c cs ih => simp only [neighbours, List.length_cons, ih]

/-- The number whose bit `i` says whether the `i`th entry passes. -/
def bitsWhere {α : Type} (p : α → Bool) : List α → Nat
  | [] => 0
  | x :: xs => 2 * bitsWhere p xs + (p x).toNat

/-- Bit `i` tells of the `i`th entry; there are no bits beyond the entries. -/
theorem testBit_bitsWhere {α : Type} (p : α → Bool) (xs : List α) (i : Nat) :
    (bitsWhere p xs).testBit i = (xs[i]?).any p := by
  induction xs generalizing i with
  | nil => simp [bitsWhere]
  | cons x xs ih =>
    cases i with
    | zero => cases h : p x <;> simp [bitsWhere, Nat.testBit_zero, h]
    | succ i =>
      have half : (2 * bitsWhere p xs + (p x).toNat) / 2 = bitsWhere p xs := by
        cases p x with
        | false => simp
        | true => simp; omega
      rw [bitsWhere, Nat.testBit_succ, half, ih, List.getElem?_cons_succ]

/-- An atom laid over a text: the positions at which it passes, and whether it takes the character
    that follows. -/
structure Step where
  /-- Whether the step goes on to the next position. -/
  advances : Bool
  /-- The positions at which the step is possible. -/
  allowed : Nat

/-- An atom laid over the positions of a text. -/
def Atom.along (positions : List (Option Char × Option Char)) : Atom → Step
  | .chars set => ⟨true, bitsWhere (fun p => isIn set p.2) positions⟩
  | .look condition => ⟨false, bitsWhere (fun p => condition.holds p.1 p.2) positions⟩

/-- Where the step leads from a set of positions. -/
def Step.ends (step : Step) (starts : Nat) : Nat :=
  if step.advances then (starts &&& step.allowed) <<< 1 else starts &&& step.allowed

/-! ## 4. Searching -/

/-- `f` applied `n` times. -/
def times (f : Nat → Nat) : Nat → Nat → Nat
  | 0, s => s
  | n + 1, s => times f n (f s)

/-- Everything reached from `fresh` in up to `n` applications of `f`, beside what is `seen`
    already. Only positions that were not seen before are taken further. -/
def reached (f : Nat → Nat) : Nat → Nat → Nat → Nat
  | 0, seen, _ => seen
  | n + 1, seen, fresh =>
    let next := (f fresh ||| seen) ^^^ seen
    if next = 0 then seen else reached f n (seen ||| next) next

/-- Where stretches that start in `starts` may end, in a text of `n` characters. A stretch never
    ends before its start, so more than `n + 1` repetitions add nothing to `n + 1` of them. -/
def Expr.ends (n : Nat) : Expr Step → Nat → Nat
  | .empty, starts => starts
  | .atom step, starts => step.ends starts
  | .seq a b, starts => b.ends n (a.ends n starts)
  | .alt a b, starts => a.ends n starts ||| b.ends n starts
  | .group body, starts => body.ends n starts
  | .repeated body least most, starts =>
    let first := times (body.ends n) (min least (n + 1)) starts
    let further := match most with
      | none => n + 1
      | some most => min (most - least) (n + 1)
    reached (body.ends n) further first first

/-- Whether some stretch of the text is covered. -/
def Expr.occursIn (e : Expr Atom) (text : List Char) : Bool :=
  let positions := neighbours none text
  (e.map (Atom.along positions)).ends text.length (1 <<< (text.length + 1) - 1) != 0

end RecordRules.Pattern
