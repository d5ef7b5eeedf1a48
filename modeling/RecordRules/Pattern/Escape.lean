import RecordRules.Pattern.Expr
import RecordRules.Pattern.Letters

/-!
# Escapes

What may follow a backslash in a pattern: a hexadecimal character, a property of characters, one of
the short sets, a control character, an anchor, or a sign that would otherwise have a meaning. The
readers take the text after the part already read and answer what they read with the text that is
left, or `none` when the text is no escape.

With the flag `x`, blanks and comments may stand between the signs of an escape (`skip`).
-/

namespace RecordRules.Pattern

/-! ## 1. Blanks and comments -/

/-- The text after leading blanks and comments; a comment runs from `#` to the end of its line. -/
def skipBlanks (inComment : Bool) : List Char → List Char
  | [] => []
  | c :: cs =>
    if inComment then skipBlanks (c != '\n') cs
    else if Unicode.whiteSpace.contains c then skipBlanks false cs
    else if c = '#' then skipBlanks true cs
    else c :: cs

/-- The text from the next place that counts. -/
def Flags.skip (flags : Flags) (cs : List Char) : List Char :=
  if flags.verbose then skipBlanks false cs else cs

/-! ## 2. Numbers -/

/-- The value of a hexadecimal digit of either case. -/
def hexDigit? (c : Char) : Option Nat :=
  if '0' ≤ c ∧ c ≤ '9' then some (c.toNat - 0x30)
  else if 'a' ≤ c ∧ c ≤ 'f' then some (c.toNat - 0x61 + 10)
  else if 'A' ≤ c ∧ c ≤ 'F' then some (c.toNat - 0x41 + 10)
  else none

/-- The character of a number, when there is one. -/
def characterOf? (n : Nat) : Option Char :=
  if n < 0xD800 ∨ (0xE000 ≤ n ∧ n < 0x110000) then some (Char.ofNat n) else none

/-- `count` hexadecimal digits, added to the number read so far. -/
def hexDigits? (flags : Flags) : Nat → Nat → List Char → Option (Nat × List Char)
  | 0, n, cs => some (n, cs)
  | count + 1, n, cs =>
    match flags.skip cs with
    | [] => none
    | c :: rest => (hexDigit? c).bind fun d => hexDigits? flags count (16 * n + d) rest

/-- Hexadecimal digits up to the closing brace, at least one of them. `budget` bounds the number
    of digits by the length of the text. -/
def bracedHex? (flags : Flags) : Nat → Option Nat → List Char → Option (Nat × List Char)
  | 0, _, _ => none
  | budget + 1, n, cs =>
    match flags.skip cs with
    | [] => none
    | '\x7d' :: rest => n.map fun n => (n, rest)
    | c :: rest =>
      (hexDigit? c).bind fun d => bracedHex? flags budget (some (16 * n.getD 0 + d)) rest

/-! ## 3. Escapes -/

/-- What an escape, or an unescaped sign, stands for. -/
inductive Sign where
  /-- A character. It is `byte` when written with exactly two hexadecimal digits after `\x`. -/
  | literal (c : Char) (byte : Bool)
  /-- Any character of a set. -/
  | set (members : CharSet)
  /-- A condition on the position. -/
  | look (condition : Look)

/-- A character in hexadecimal form, after `x`, `u` or `U`. -/
def hexSign? (flags : Flags) (letter : Char) (cs : List Char) : Option (Sign × List Char) :=
  match flags.skip cs with
  | '\x7b' :: rest =>
    (bracedHex? flags (rest.length + 1) none rest).bind fun (n, rest) =>
      (characterOf? n).map fun c => (.literal c false, rest)
  | rest =>
    let count := if letter = 'x' then 2 else if letter = 'u' then 4 else 8
    (hexDigits? flags count 0 rest).bind fun (n, rest) =>
      (characterOf? n).map fun c => (.literal c (letter == 'x'), rest)

/-- The text up to the closing brace. -/
def untilBrace? (flags : Flags) : Nat → List Char → Option (List Char × List Char)
  | 0, _ => none
  | budget + 1, cs =>
    match flags.skip cs with
    | [] => none
    | '\x7d' :: rest => some ([], rest)
    | c :: rest => (untilBrace? flags budget rest).map fun (name, rest) => (c :: name, rest)

/-- The text before and after the first place where `sep` stands. -/
def splitAt? (sep : List Char) : List Char → Option (List Char × List Char)
  | [] => none
  | c :: cs =>
    if sep.isPrefixOf (c :: cs) then some ([], (c :: cs).drop sep.length)
    else (splitAt? sep cs).map fun (front, back) => (c :: front, back)

/-- The set that the text between the braces of a property names: a name, or a name and a value
    parted by `!=`, `:` or `=`. -/
def propertySet? (text : List Char) : Option CharSet :=
  let parted := ((splitAt? ['!', '='] text).orElse fun _ => splitAt? [':'] text).orElse fun _ =>
    splitAt? ['='] text
  match parted with
  | some (name, value) => Unicode.valued? (String.ofList name) (String.ofList value)
  | none => Unicode.named? (String.ofList text)

/-- A property of characters, after `p` or `P`. It needs Unicode. -/
def propertySign? (flags : Flags) (negated : Bool) (cs : List Char) : Option (Sign × List Char) :=
  let named := match flags.skip cs with
    | [] => none
    | '\\' :: _ => none
    | '\x7b' :: rest => untilBrace? flags (rest.length + 1) rest
    | c :: rest => some ([c], rest)
  named.bind fun (name, rest) =>
    if flags.unicode then
      (propertySet? name).bind fun s =>
        (flags.negated? negated (flags.folded s)).map fun s => (.set s, rest)
    else none

/-- The word condition of a name such as `\b{start}`. -/
def namedBoundary? (flags : Flags) (name : List Char) : Option Look :=
  match String.ofList name with
  | "start" => some (.wordStart flags.words)
  | "end" => some (.wordEnd flags.words)
  | "start-half" => some (.wordStartHalf flags.words)
  | "end-half" => some (.wordEndHalf flags.words)
  | _ => none

/-- Whether a character may stand in the name of a word condition. -/
def isBoundaryLetter (c : Char) : Bool := c.isAlpha || c == '-'

/-- A word boundary, after `b`. A brace that goes on with a letter or a hyphen names a further
    word condition; any other brace is left for a repetition. -/
def boundarySign? (flags : Flags) (cs : List Char) : Option (Sign × List Char) :=
  match cs with
  | '\x7b' :: rest =>
    match flags.skip rest with
    | [] => none
    | c :: _ =>
      if isBoundaryLetter c then
        (untilBrace? flags (rest.length + 1) rest).bind fun (name, rest) =>
          (namedBoundary? flags name).map fun look => (.look look, rest)
      else some (.look (.boundary flags.words), cs)
  | _ => some (.look (.boundary flags.words), cs)

/-- Whether an escaped character stands for itself: every ASCII sign that is no letter, no digit
    and no angle bracket. -/
def isEscapable (c : Char) : Bool := c.toNat < 128 && !c.isAlphanum && c != '<' && c != '>'

/-- What follows a backslash. -/
def escape? (flags : Flags) : List Char → Option (Sign × List Char)
  | [] => none
  | c :: rest =>
    if isEscapable c then some (.literal c false, rest)
    else
      match c with
      | 'x' | 'u' | 'U' => hexSign? flags c rest
      | 'p' => propertySign? flags false rest
      | 'P' => propertySign? flags true rest
      | 'd' | 's' | 'w' => (flags.shorthand? c).map fun s => (.set s, rest)
      | 'D' | 'S' | 'W' =>
        (flags.shorthand? c.toLower).bind fun s =>
          (flags.negated? true s).map fun s => (.set s, rest)
      | 'a' => some (.literal '\x07' false, rest)
      | 'f' => some (.literal '\x0c' false, rest)
      | 't' => some (.literal '\t' false, rest)
      | 'n' => some (.literal '\n' false, rest)
      | 'r' => some (.literal '\r' false, rest)
      | 'v' => some (.literal '\x0b' false, rest)
      | 'A' => some (.look .textStart, rest)
      | 'z' => some (.look .textEnd, rest)
      | 'b' => boundarySign? flags rest
      | 'B' => some (.look (.noBoundary flags.words), rest)
      | '<' => some (.look (.wordStart flags.words), rest)
      | '>' => some (.look (.wordEnd flags.words), rest)
      | _ => none

end RecordRules.Pattern
