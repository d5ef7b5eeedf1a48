/-!
# Sets of characters

A set of code points is kept as the ascending list of the points at which membership changes:
`[0x30, 0x3A]` is the set of the ASCII digits, and the empty list is the empty set.

* membership (`contains`) counts the changes up to the character;
* union, intersection, difference and symmetric difference are ONE sweep over the two lists
  (`combine`), which writes down the points at which the combined answer changes;
* the complement only adds or removes the change at zero;
* tables of ranges are written as rows of hexadecimal text (`ofRows`), so that a large table is
  data and not a large term.
-/

namespace RecordRules

/-- A set of code points, as the ascending list of the points where membership changes. -/
structure CharSet where
  /-- The points where membership changes; below the first one nothing is a member. -/
  flips : List Nat
  deriving DecidableEq, Repr, Inhabited

namespace CharSet

/-! ## 1. Membership -/

/-- Whether the point `n` is inside, when membership starts as `now` and changes at each listed
    point. -/
def insideFrom (now : Bool) : List Nat → Nat → Bool
  | [], _ => now
  | f :: rest, n => if f ≤ n then insideFrom (!now) rest n else now

/-- Whether a code point is a member. -/
def containsPoint (s : CharSet) (n : Nat) : Bool := insideFrom false s.flips n

/-- Whether a character is a member. -/
def contains (s : CharSet) (c : Char) : Bool := s.containsPoint c.toNat

/-! ## 2. Building sets -/

/-- The set without members. -/
def empty : CharSet := ⟨[]⟩

/-- Every code point. -/
def all : CharSet := ⟨[0, 0x110000]⟩

/-- The points from `lo` to `hi`, both included; nothing when `hi < lo`. -/
def range (lo hi : Nat) : CharSet := if lo ≤ hi then ⟨[lo, hi + 1]⟩ else empty

/-- One code point. -/
def point (n : Nat) : CharSet := range n n

/-- One character. -/
def single (c : Char) : CharSet := point c.toNat

@[simp] theorem contains_empty (c : Char) : empty.contains c = false := rfl

theorem containsPoint_range (lo hi n : Nat) :
    (range lo hi).containsPoint n = (decide (lo ≤ n) && decide (n ≤ hi)) := by
  unfold range containsPoint
  by_cases h : lo ≤ hi
  · simp only [h, ↓reduceIte, insideFrom]
    by_cases h1 : lo ≤ n <;> by_cases h2 : hi + 1 ≤ n <;> simp [h1, h2] <;> omega
  · simp only [h, ↓reduceIte, empty, insideFrom]
    by_cases h1 : lo ≤ n <;> by_cases h2 : n ≤ hi <;> simp [h1, h2]
    omega

/-- A one-character set holds that character and no other. -/
theorem containsPoint_point (m n : Nat) : (point m).containsPoint n = decide (n = m) := by
  rw [point, containsPoint_range]
  by_cases h : n = m
  · simp [h]
  · by_cases h1 : m ≤ n <;> by_cases h2 : n ≤ m <;> simp [h, h1, h2]
    omega

/-! ## 3. Combining two sets -/

/-- Records a change at `point` when the answer before it differs from the answer after it. -/
def mark (before after : Bool) (point : Nat) (rest : List Nat) : List Nat :=
  if before = after then rest else point :: rest

/-- Walks both lists in ascending order. `a` and `b` say whether the walk stands inside the two
    sets; a point is written where the combined answer changes. -/
def sweep (op : Bool → Bool → Bool) (a b : Bool) : List Nat → List Nat → List Nat
  | [], [] => []
  | x :: xs, [] => mark (op a b) (op (!a) b) x (sweep op (!a) b xs [])
  | [], y :: ys => mark (op a b) (op a (!b)) y (sweep op a (!b) [] ys)
  | x :: xs, y :: ys =>
    if x < y then mark (op a b) (op (!a) b) x (sweep op (!a) b xs (y :: ys))
    else if y < x then mark (op a b) (op a (!b)) y (sweep op a (!b) (x :: xs) ys)
    else mark (op a b) (op (!a) (!b)) x (sweep op (!a) (!b) xs ys)
  termination_by xs ys => xs.length + ys.length

/-- The set whose members are told by `op` from membership in the two sets. `op` answers `false`
    for a point in neither. -/
def combine (op : Bool → Bool → Bool) (s t : CharSet) : CharSet :=
  ⟨sweep op false false s.flips t.flips⟩

/-- Members of either set. -/
def union (s t : CharSet) : CharSet := combine or s t

/-- Members of both sets. -/
def inter (s t : CharSet) : CharSet := combine and s t

/-- Members of the first set that are not in the second. -/
def diff (s t : CharSet) : CharSet := combine (fun a b => a && !b) s t

/-- Members of exactly one of the sets. -/
def symmDiff (s t : CharSet) : CharSet := combine xor s t

instance : Union CharSet := ⟨union⟩
instance : Inter CharSet := ⟨inter⟩
instance : SDiff CharSet := ⟨diff⟩

/-- Members of any of the sets. -/
def unions (sets : List CharSet) : CharSet := sets.foldl union empty

/-- Every point outside the set. -/
def compl (s : CharSet) : CharSet :=
  match s.flips with
  | 0 :: rest => ⟨rest⟩
  | flips => ⟨0 :: flips⟩

theorem insideFrom_not (now : Bool) (flips : List Nat) (n : Nat) :
    insideFrom (!now) flips n = !insideFrom now flips n := by
  induction flips generalizing now with
  | nil => rfl
  | cons f rest ih =>
    by_cases h : f ≤ n
    · simp only [insideFrom, h, ↓reduceIte, ih]
    · simp only [insideFrom, h, ↓reduceIte]

/-- **The complement holds exactly what the set does not.** -/
theorem containsPoint_compl (s : CharSet) (n : Nat) :
    s.compl.containsPoint n = !s.containsPoint n := by
  unfold compl containsPoint
  split
  · next rest h =>
    rw [h]
    simp only [insideFrom, Nat.zero_le, ↓reduceIte, Bool.not_false]
    rw [← insideFrom_not]
    rfl
  · simp only [insideFrom, Nat.zero_le, ↓reduceIte, Bool.not_false]
    exact insideFrom_not false s.flips n

/-! ## 4. The set as ranges -/

/-- The flips read as ranges, both ends included; a last open range ends with the last code
    point. -/
def rangesOf : List Nat → List (Nat × Nat)
  | lo :: next :: rest => (lo, next - 1) :: rangesOf rest
  | [lo] => [(lo, 0x10FFFF)]
  | [] => []

/-- The ranges of the set in ascending order. -/
def ranges (s : CharSet) : List (Nat × Nat) := rangesOf s.flips

/-! ## 5. Tables -/

/-- The value of a hexadecimal digit; every other character counts as zero. -/
def hexValue (c : Char) : Nat :=
  if '0' ≤ c ∧ c ≤ '9' then c.toNat - '0'.toNat
  else if 'A' ≤ c ∧ c ≤ 'F' then c.toNat - 'A'.toNat + 10
  else 0

/-- The flips of one row such as `41-5A AA`: hexadecimal points and ranges, ascending, with a
    blank between them. `n` is the number read so far, and `upper` says that it is the upper end
    of a range. -/
def flipsOfRow (n : Nat) (upper : Bool) : List Char → List Nat
  | [] => if upper then [n + 1] else [n, n + 1]
  | c :: cs =>
    if c = ' ' then (if upper then [n + 1] else [n, n + 1]) ++ flipsOfRow 0 false cs
    else if c = '-' then n :: flipsOfRow 0 true cs
    else flipsOfRow (16 * n + hexValue c) upper cs

/-- The set written as rows of hexadecimal ranges. -/
def ofRows (rows : List String) : CharSet :=
  ⟨rows.flatMap fun row => flipsOfRow 0 false row.toList⟩

end CharSet

end RecordRules
