import RecordRules.Pattern.Bracket
import RecordRules.Pattern.Budget
import RecordRules.Pattern.Engine

/-!
# Reading patterns

The reader turns the text of a pattern into the expression that it means under its flags, or
refuses it. Three things are refused beside broken syntax: a group name used twice, parts nested
more than 250 deep, and a pattern whose machine would be too large.

Flags set inside a group hold to the end of that group, past any bar; a group opened with flags
keeps them to itself.

What is read in this way makes an engine (`Pattern.engine`).
-/

namespace RecordRules.Pattern

/-! ## 1. Pieces -/

/-- A part of a pattern: what it means, how deep its parts nest, and whether it can be
    repeated. -/
structure Piece where
  /-- The meaning. -/
  expr : Expr Atom
  /-- How deep the parts nest. -/
  depth : Nat
  /-- Whether a repetition may follow; it may not after a setting of flags. -/
  repeatable : Bool

/-- Pieces in a row, given last first. Two or more nest one level deeper than the deepest. -/
def Piece.row (pieces : List Piece) : Piece :=
  match pieces with
  | [] => ⟨.empty, 0, false⟩
  | [piece] => piece
  | last :: before =>
    ⟨before.foldl (fun e p => .seq p.expr e) last.expr,
      before.foldl (fun d p => max d p.depth) last.depth + 1, true⟩

/-- Branches between bars, given last first. -/
def Piece.branches (pieces : List Piece) : Piece :=
  match pieces with
  | [] => ⟨.empty, 0, false⟩
  | [piece] => piece
  | last :: before =>
    ⟨before.foldl (fun e p => .alt p.expr e) last.expr,
      before.foldl (fun d p => max d p.depth) last.depth + 1, true⟩

/-- The deepest nesting that is read. -/
def depthLimit : Nat := 250

/-! ## 2. Flags and names of groups -/

/-- Flags between `(?` and `)` or `:`. Each flag and the hyphen stand once at most, and a flag
    follows the hyphen. Answers the flags, whether any sign was there, and the text from the
    closing sign on. -/
def groupFlags? (flags : Flags) (seen : List Char) : List Char → Option (Flags × Bool × List Char)
  | [] => none
  | c :: rest =>
    if c = ')' ∨ c = ':' then
      if seen.head? = some '-' then none else some (flags, !seen.isEmpty, c :: rest)
    else if seen.contains c then none
    else if c = '-' then groupFlags? flags (c :: seen) rest
    else (flags.switch? c (!seen.contains '-')).bind fun flags => groupFlags? flags (c :: seen) rest

/-- Whether a character may stand in the name of a group. -/
def isNameCharacter (first : Bool) (c : Char) : Bool :=
  c == '_' || Unicode.alphabetic.contains c ||
    (!first && (c == '.' || c == '[' || c == ']' || Unicode.number.contains c))

/-- The name of a group up to its closing angle bracket. -/
def groupName? (first : Bool) : List Char → Option (List Char × List Char)
  | [] => none
  | c :: rest =>
    if c = '>' then if first then none else some ([], rest)
    else if isNameCharacter first c then
      (groupName? false rest).map fun (name, rest) => (c :: name, rest)
    else none

/-- What an opening parenthesis begins. -/
inductive Opening where
  /-- A setting of flags, already closed. -/
  | setting (flags : Flags)
  /-- A group with flags of its own, which is not counted. -/
  | plain (flags : Flags)
  /-- A counted group. -/
  | counted
  /-- A counted group with a name. -/
  | named (name : List Char)

/-- What follows an opening parenthesis. Looking ahead and behind is refused. -/
def opening? (flags : Flags) (cs : List Char) : Option (Opening × List Char) :=
  match flags.skip cs with
  | '?' :: '=' :: _ | '?' :: '!' :: _ | '?' :: '<' :: '=' :: _ | '?' :: '<' :: '!' :: _ => none
  | '?' :: 'P' :: '<' :: rest | '?' :: '<' :: rest =>
    (groupName? true rest).map fun (name, rest) => (.named name, rest)
  | '?' :: rest =>
    (groupFlags? flags [] rest).bind fun (flags, some', rest) =>
      match rest with
      | ')' :: rest => if some' then some (.setting flags, rest) else none
      | _ :: rest => some (.plain flags, rest)
      | [] => none
  | rest => some (.counted, rest)

/-! ## 3. Repetitions -/

/-- The text after a question mark, which makes a repetition lazy. -/
def skipLazy : List Char → List Char
  | '?' :: rest => rest
  | rest => rest

/-- Decimal digits with blanks around them, below two to the 32nd. Answers `none` inside when
    there is no digit. -/
def count? (flags : Flags) (cs : List Char) : Option (Option Nat × List Char) :=
  let rec digits (n : Option Nat) : Nat → List Char → Option Nat × List Char
    | 0, cs => (n, cs)
    | budget + 1, cs =>
      match cs with
      | [] => (n, [])
      | c :: rest =>
        if c.isDigit then
          digits (some (10 * n.getD 0 + (c.toNat - 0x30))) budget (flags.skip rest)
        else (n, c :: rest)
  let start := cs.dropWhile Unicode.whiteSpace.contains
  let (n, rest) := digits none (start.length + 1) start
  let rest := skipAfter rest (rest.length + 1)
  match n with
  | some m => if m < 0x100000000 then some (some m, rest) else none
  | none => some (none, rest)
where
  /-- The text after blanks, with comments skipped behind each of them. -/
  skipAfter (cs : List Char) : Nat → List Char
    | 0 => cs
    | budget + 1 =>
      match cs with
      | [] => []
      | c :: rest =>
        if Unicode.whiteSpace.contains c then skipAfter (flags.skip rest) budget else cs

/-- The bounds of a counted repetition, after its opening brace. -/
def bounds? (flags : Flags) (cs : List Char) : Option ((Nat × Option Nat) × List Char) :=
  (count? flags (flags.skip cs)).bind fun (least, rest) =>
    least.bind fun least =>
      match rest with
      | '\x7d' :: rest => some ((least, some least), rest)
      | ',' :: rest =>
        match flags.skip rest with
        | '\x7d' :: rest => some ((least, none), rest)
        | rest =>
          (count? flags rest).bind fun (most, rest) =>
            match most, rest with
            | some most, '\x7d' :: rest =>
              if least ≤ most then some ((least, some most), rest) else none
            | _, _ => none
      | _ => none

/-- The last piece repeated. -/
def repeatLast? (least : Nat) (most : Option Nat) : List Piece → Option (List Piece)
  | [] => none
  | piece :: before =>
    if piece.repeatable then
      some (⟨.repeated piece.expr least most, piece.depth + 1, true⟩ :: before)
    else none

/-! ## 4. Groups and branches -/

/-- One sign outside brackets. -/
def Flags.sign? (flags : Flags) : Sign → Option (Expr Atom)
  | .literal c byte =>
    if byte && !flags.unicode && 0x80 ≤ c.toNat then none
    else some (.atom (.chars (flags.literal c)))
  | .set s => some (.atom (.chars s))
  | .look condition => some (.atom (.look condition))

/-- The anchor at the start of lines or of the text. -/
def Flags.startAnchor (flags : Flags) : Look :=
  if flags.multiLine then if flags.carriageReturn then .wideLineStart else .lineStart
  else .textStart

/-- The anchor at the end of lines or of the text. -/
def Flags.endAnchor (flags : Flags) : Look :=
  if flags.multiLine then if flags.carriageReturn then .wideLineEnd else .lineEnd
  else .textEnd

/-- A sign that is no operator. -/
def primitive? (flags : Flags) : List Char → Option (Expr Atom × List Char)
  | [] => none
  | c :: rest =>
    match c with
    | '\\' => (escape? flags rest).bind fun (sign, rest) => (flags.sign? sign).map (·, rest)
    | '.' => flags.dot?.map fun s => (.atom (.chars s), rest)
    | '^' => some (.atom (.look flags.startAnchor), rest)
    | '$' => some (.atom (.look flags.endAnchor), rest)
    | c => some (.atom (.chars (flags.literal c)), rest)

/-- What has been read of a group: the pieces of the branch at hand and the branches before it,
    both last first. -/
structure Progress where
  /-- The pieces of the branch at hand. -/
  pieces : List Piece
  /-- The branches before it. -/
  earlier : List Piece

/-- The group that has been read. -/
def Progress.close (p : Progress) : Piece := .branches (.row p.pieces :: p.earlier)

/-- One more piece. -/
def Progress.add (p : Progress) (piece : Piece) : Progress := { p with pieces := piece :: p.pieces }

/-- Reads to the end of a group, or of the pattern when no group is open. `names` are the names of
    groups given so far; `budget` bounds the steps by the length of the pattern. -/
def group? : Nat → Bool → Flags → List (List Char) → Progress → List Char →
    Option (Piece × List (List Char) × List Char)
  | 0, _, _, _, _, _ => none
  | budget + 1, isOpen, flags, names, progress, cs =>
    let repeated (least : Nat) (most : Option Nat) (rest : List Char) :=
      (repeatLast? least most progress.pieces).bind fun pieces =>
        group? budget isOpen flags names { progress with pieces } rest
    match flags.skip cs with
    | [] => if isOpen then none else some (progress.close, names, [])
    | ')' :: rest => if isOpen then some (progress.close, names, rest) else none
    | '|' :: rest =>
      group? budget isOpen flags names ⟨[], .row progress.pieces :: progress.earlier⟩ rest
    | '*' :: rest => repeated 0 none (skipLazy rest)
    | '+' :: rest => repeated 1 none (skipLazy rest)
    | '?' :: rest => repeated 0 (some 1) (skipLazy rest)
    | '\x7b' :: rest =>
      (bounds? flags rest).bind fun ((least, most), rest) =>
        repeated least most (skipLazy (flags.skip rest))
    | '[' :: rest =>
      (bracket? flags rest).bind fun (set, rest) =>
        group? budget isOpen flags names
          (progress.add ⟨.atom (.chars set.members), set.depth, true⟩) rest
    | '(' :: rest =>
      (opening? flags rest).bind fun (opening, rest) =>
        let enclosed (inner : Flags) (names : List (List Char)) (wrap : Expr Atom → Expr Atom) :=
          (group? budget true inner names ⟨[], []⟩ rest).bind fun (body, names, rest) =>
            group? budget isOpen flags names
              (progress.add ⟨wrap body.expr, body.depth + 1, true⟩) rest
        match opening with
        | .setting inner => group? budget isOpen inner names (progress.add ⟨.empty, 0, false⟩) rest
        | .plain inner => enclosed inner names id
        | .counted => enclosed flags names .group
        | .named name =>
          if names.contains name then none else enclosed flags (name :: names) .group
    | c :: rest =>
      (primitive? flags (c :: rest)).bind fun (e, rest) =>
        group? budget isOpen flags names (progress.add ⟨e, 0, true⟩) rest

/-- The expression that the text of a pattern means, or `none` when the text is refused. -/
def read? (text : List Char) : Option (Expr Atom) :=
  (group? (text.length + 1) false {} [] ⟨[], []⟩ text).bind fun (whole, _, _) =>
    if whole.depth ≤ depthLimit && whole.expr.fits then some whole.expr else none

end RecordRules.Pattern

namespace RecordRules

/-! ## 5. Patterns -/

/-- A pattern that can be searched for: its text, and the expression that the text means. -/
structure Pattern where
  /-- The text as it was given. -/
  source : String
  /-- What the text means. -/
  expr : Pattern.Expr Pattern.Atom
  /-- The meaning is that of the text. -/
  read_source : Pattern.read? source.toList = some expr

/-- The pattern of a text, or `none` when the text is refused. -/
def Pattern.ofString? (source : String) : Option Pattern :=
  match h : Pattern.read? source.toList with
  | some expr => some ⟨source, expr, h⟩
  | none => none

/-- Whether the pattern occurs anywhere in a text. -/
def Pattern.occursIn (p : Pattern) (text : String) : Bool := p.expr.occursIn text.toList

/-! ## 6. The engine -/

namespace Pattern

/-- The engine of these patterns. It is in force only where it is asked for, so that nothing else
    depends on which patterns there are. It gives one reason against every text that it refuses, and
    it has none of the properties of characters that tell their age and where clusters, words and
    sentences end. -/
scoped instance engine : PatternEngine where
  Pattern := Pattern
  read source :=
    match Pattern.ofString? source with
    | some pattern => .ok pattern
    | none => .error "regex parse error"
  occursIn := Pattern.occursIn

end Pattern

end RecordRules
