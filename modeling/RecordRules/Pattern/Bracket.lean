import RecordRules.Pattern.Escape

/-!
# Bracketed sets

A set in brackets holds characters, ranges, escapes, ASCII sets such as `[:alpha:]` and further
bracketed sets, and combines what stands left and right of `&&`, `--` or `~~`. The reader answers
the set itself, as the flags read it, and how deep the brackets and operators nest.

* A hyphen is a character at the start, before the closing bracket and before another hyphen.
* A closing bracket is a character when it stands first.
* Case is closed at every bracket and on both sides of an operator, before any complement.
-/

namespace RecordRules.Pattern

/-! ## 1. Items -/

/-- An operator on two sets inside brackets. -/
inductive SetOp where
  /-- `&&`: members of both. -/
  | both
  /-- `--`: members of the left side only. -/
  | without
  /-- `~~`: members of exactly one side. -/
  | exactlyOne
  deriving DecidableEq, Repr

/-- The operator that a doubled sign stands for. -/
def setOp? : Char → Option SetOp
  | '&' => some .both
  | '-' => some .without
  | '~' => some .exactlyOne
  | _ => none

/-- The operator on sets. -/
def SetOp.apply : SetOp → CharSet → CharSet → CharSet
  | .both, s, t => s ∩ t
  | .without, s, t => s \ t
  | .exactlyOne, s, t => s.symmDiff t

/-- A set with the depth of the brackets and operators that made it. -/
structure Nested where
  /-- The members. -/
  members : CharSet
  /-- How deep the parts nest. -/
  depth : Nat

/-- The side of an operator read so far: its items together, their number, and the depth of the
    deepest. -/
structure Side where
  /-- The members of all items. -/
  members : CharSet
  /-- How many items were read. -/
  count : Nat
  /-- The depth of the deepest item. -/
  deepest : Nat

/-- The side without items. -/
def Side.empty : Side := ⟨.empty, 0, 0⟩

/-- One more item. -/
def Side.add (side : Side) (item : Nested) : Side :=
  ⟨side.members ∪ item.members, side.count + 1, max side.deepest item.depth⟩

/-- A whole side; two or more items nest one level deeper than the deepest of them. -/
def Side.close (side : Side) : Nested :=
  ⟨side.members, if side.count < 2 then side.deepest else side.deepest + 1⟩

/-- The left side of an operator with the operator. -/
abbrev Left := Option (Nested × SetOp)

/-- What stands left of the next operator or of the closing bracket. Operators group to the
    left. -/
def combineLeft (flags : Flags) (left : Left) (side : Side) : Nested :=
  match left with
  | none => side.close
  | some (before, op) =>
    let after := side.close
    ⟨op.apply (flags.folded before.members) (flags.folded after.members),
      max before.depth after.depth + 1⟩

/-- The character that counts after the first one; behind a hyphen it tells a range from a
    character. A comment is looked into and not skipped. -/
def peekSpace (flags : Flags) (cs : List Char) : Option Char :=
  if flags.verbose then
    match cs.dropWhile Unicode.whiteSpace.contains with
    | '#' :: rest => ((rest.dropWhile Unicode.whiteSpace.contains).head?).orElse fun _ => cs.head?
    | [] => cs.head?
    | c :: _ => some c
  else cs.head?

/-- A character inside brackets as a code point; with Unicode off it has to be ASCII. -/
def Flags.bracketPoint? (flags : Flags) (c : Char) : Option Nat :=
  if flags.unicode || c.toNat < 128 then some c.toNat else none

/-- One sign inside brackets: an escape, or any other character. -/
def bracketSign? (flags : Flags) : List Char → Option (Sign × List Char)
  | [] => none
  | '\\' :: rest => escape? flags rest
  | c :: rest => some (.literal c false, rest)

/-- The point of a sign that is a character. -/
def Sign.point? (flags : Flags) : Sign → Option Nat
  | .literal c _ => flags.bracketPoint? c
  | _ => none

/-- A character, a range or an escaped set. -/
def bracketItem? (flags : Flags) (cs : List Char) : Option (CharSet × List Char) :=
  (bracketSign? flags cs).bind fun (first, rest) =>
    let alone := match first with
      | .literal c _ => (flags.bracketPoint? c).map CharSet.point
      | .set s => some s
      | .look _ => none
    match flags.skip rest with
    | '-' :: afterHyphen =>
      if peekSpace flags afterHyphen = some ']' ∨ peekSpace flags afterHyphen = some '-' then
        alone.map fun s => (s, '-' :: afterHyphen)
      else
        (bracketSign? flags (flags.skip afterHyphen)).bind fun (second, rest) =>
          match first.point? flags, second.point? flags with
          | some lo, some hi => if lo ≤ hi then some (.range lo hi, rest) else none
          | _, _ => none
    | rest => alone.map fun s => (s, rest)

/-- An ASCII set such as `[:alpha:]` or `[:^alpha:]`, after its opening bracket: whether it is
    negated, its members and the text that is left. -/
def asciiSet? : List Char → Option (Bool × CharSet × List Char)
  | ':' :: '^' :: rest => body true rest
  | ':' :: rest => body false rest
  | _ => none
where
  /-- The name and what closes it. -/
  body (negated : Bool) (cs : List Char) : Option (Bool × CharSet × List Char) :=
    (splitAt? [':'] cs).bind fun (name, rest) =>
      match rest with
      | ']' :: rest => (asciiNamed? (String.ofList name)).map fun s => (negated, s, rest)
      | _ => none

/-! ## 2. Brackets -/

/-- The text after a caret, and whether there was one. -/
def readCaret (flags : Flags) (cs : List Char) : Bool × List Char :=
  match flags.skip cs with
  | '^' :: rest => (true, rest)
  | rest => (false, rest)

/-- The rest of a bracketed set up to its closing bracket. `opening` says that only hyphens stood
    so far; `budget` bounds the steps by the length of the text. -/
def bracketRest? (flags : Flags) : Nat → Bool → Bool → Left → Side → List Char →
    Option (Nested × List Char)
  | 0, _, _, _, _, _ => none
  | budget + 1, negated, opening, left, side, cs =>
    let go := bracketRest? flags budget negated false
    match flags.skip cs with
    | [] => none
    | c :: rest =>
      if opening && c == '-' then
        bracketRest? flags budget negated true left (side.add ⟨.single '-', 0⟩) rest
      else if opening && c == ']' && side.count == 0 then go left (side.add ⟨.single ']', 0⟩) rest
      else if c = ']' then
        let whole := combineLeft flags left side
        (flags.negated? negated (flags.folded whole.members)).map fun s =>
          (⟨s, whole.depth + 1⟩, rest)
      else if c = '[' then
        match asciiSet? rest with
        | some (negatedSet, s, rest) =>
          (flags.negated? negatedSet (flags.folded s)).bind fun s => go left (side.add ⟨s, 0⟩) rest
        | none =>
          let (negatedInner, rest) := readCaret flags rest
          (bracketRest? flags budget negatedInner true none .empty rest).bind fun (inner, rest) =>
            go left (side.add inner) rest
      else
        match setOp? c, rest with
        | some op, next :: after =>
          if next = c then go (some (combineLeft flags left side, op)) .empty after
          else (bracketItem? flags (c :: rest)).bind fun (s, rest) => go left (side.add ⟨s, 0⟩) rest
        | _, _ => (bracketItem? flags (c :: rest)).bind fun (s, rest) =>
            go left (side.add ⟨s, 0⟩) rest

/-- A bracketed set, after its opening bracket. -/
def bracket? (flags : Flags) (cs : List Char) : Option (Nested × List Char) :=
  let (negated, rest) := readCaret flags cs
  bracketRest? flags (rest.length + 1) negated true none .empty rest

end RecordRules.Pattern
