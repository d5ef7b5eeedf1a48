import RecordRules.Unicode.Names
import RecordRules.Unicode.Folding

/-!
# Flags and named sets

What a letter of a pattern stands for depends on the flags in force. This file fixes the flags and
the sets that have short names: `\d`, `\s`, `\w`, the ASCII sets `[:alpha:]` and so on, and the
dot. Two questions are asked of every set:

* `Flags.folded` closes a set under case, when case is ignored; with Unicode off only the ASCII
  letters have two cases;
* `Flags.negated?` takes the complement. With Unicode off a complement would hold bytes that are no
  characters, so there it is refused.
-/

namespace RecordRules.Pattern

/-! ## 1. Flags -/

/-- The flags in force at a place of a pattern. -/
structure Flags where
  /-- `i`: case does not count. -/
  ignoreCase : Bool := false
  /-- `m`: the anchors hold at every line. -/
  multiLine : Bool := false
  /-- `s`: the dot takes line ends too. -/
  dotAll : Bool := false
  /-- `U`: lazy and greedy repetition change places. -/
  swapGreed : Bool := false
  /-- `u`: sets and boundaries know all of Unicode. -/
  unicode : Bool := true
  /-- `R`: a carriage return ends a line as well. -/
  carriageReturn : Bool := false
  /-- `x`: blanks and comments in the pattern do not count. -/
  verbose : Bool := false
  deriving DecidableEq, Repr

/-- The flags with the one of the given letter switched; `none` for a letter of no flag. -/
def Flags.switch? (flags : Flags) (letter : Char) (on : Bool) : Option Flags :=
  match letter with
  | 'i' => some { flags with ignoreCase := on }
  | 'm' => some { flags with multiLine := on }
  | 's' => some { flags with dotAll := on }
  | 'U' => some { flags with swapGreed := on }
  | 'u' => some { flags with unicode := on }
  | 'R' => some { flags with carriageReturn := on }
  | 'x' => some { flags with verbose := on }
  | _ => none

/-! ## 2. ASCII sets -/

/-- The decimal digits of ASCII. -/
def asciiDigit : CharSet := .range 0x30 0x39

/-- The upper-case letters of ASCII. -/
def asciiUpper : CharSet := .range 0x41 0x5A

/-- The lower-case letters of ASCII. -/
def asciiLower : CharSet := .range 0x61 0x7A

/-- The letters of ASCII. -/
def asciiAlpha : CharSet := asciiUpper ∪ asciiLower

/-- The letters and digits of ASCII. -/
def asciiAlnum : CharSet := asciiDigit ∪ asciiAlpha

/-- The letters and digits of ASCII with the underscore. -/
def asciiWord : CharSet := asciiAlnum ∪ .single '_'

/-- The blanks and line ends of ASCII. -/
def asciiSpace : CharSet := .range 0x09 0x0D ∪ .single ' '

/-- The ASCII sets that can be named inside brackets. -/
def asciiNamed? (name : String) : Option CharSet :=
  match name with
  | "alnum" => some asciiAlnum
  | "alpha" => some asciiAlpha
  | "ascii" => some (.range 0 0x7F)
  | "blank" => some (.single '\t' ∪ .single ' ')
  | "cntrl" => some (.range 0 0x1F ∪ .point 0x7F)
  | "digit" => some asciiDigit
  | "graph" => some (.range 0x21 0x7E)
  | "lower" => some asciiLower
  | "print" => some (.range 0x20 0x7E)
  | "punct" => some (.range 0x21 0x7E \ asciiAlnum)
  | "space" => some asciiSpace
  | "upper" => some asciiUpper
  | "word" => some asciiWord
  | "xdigit" => some (.unions [asciiDigit, .range 0x41 0x46, .range 0x61 0x66])
  | _ => none

/-! ## 3. Sets under flags -/

/-- The set closed under the two cases of the ASCII letters. -/
def asciiCaseClosed (s : CharSet) : CharSet :=
  .unions [s,
    .ofPoints (((List.range 26).filter fun i => s.containsPoint (0x41 + i)).map (0x61 + ·)),
    .ofPoints (((List.range 26).filter fun i => s.containsPoint (0x61 + i)).map (0x41 + ·))]

/-- The set as the flags read it: closed under case when case is ignored. -/
def Flags.folded (flags : Flags) (s : CharSet) : CharSet :=
  if flags.ignoreCase then
    if flags.unicode then s.caseClosed else asciiCaseClosed s
  else s

/-- The complement when asked for, and `none` when it would hold bytes beyond ASCII. -/
def Flags.negated? (flags : Flags) (negated : Bool) (s : CharSet) : Option CharSet :=
  if flags.unicode then some (if negated then s.compl else s)
  else
    let t := if negated then s.compl ∩ .range 0 0xFF else s
    if t \ .range 0 0x7F = .empty then some t else none

/-- The set of `\d`, `\s` or `\w`. -/
def Flags.shorthand? (flags : Flags) (letter : Char) : Option CharSet :=
  match letter, flags.unicode with
  | 'd', true => some Unicode.decimalNumber
  | 's', true => some Unicode.whiteSpace
  | 'w', true => some Unicode.wordCharacter
  | 'd', false => some asciiDigit
  | 's', false => some asciiSpace
  | 'w', false => some asciiWord
  | _, _ => none

/-- The characters that make up words. -/
def Flags.words (flags : Flags) : CharSet :=
  if flags.unicode then Unicode.wordCharacter else asciiWord

/-- What the dot stands for; with Unicode off it is refused. -/
def Flags.dot? (flags : Flags) : Option CharSet :=
  if !flags.unicode then none
  else if flags.dotAll then some .all
  else if flags.carriageReturn then some (.all \ (.single '\n' ∪ .single '\r'))
  else some (.all \ .single '\n')

/-- One character as the flags read it. -/
def Flags.literal (flags : Flags) (c : Char) : CharSet := flags.folded (.single c)

end RecordRules.Pattern
