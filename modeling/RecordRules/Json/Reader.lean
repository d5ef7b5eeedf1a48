import RecordRules.Json.Draft

/-!
# Reading JSON

The reader turns a text into a draft. It is strict: no comments, no trailing commas, no leading
zeros, no raw control characters in strings, and at most 127 containers open at once. Every part
answers its draft with the text that is left, or with nothing left when the writing broke off
there.

* `readString` reads the rest of a string and keeps track of halves of surrogate pairs;
* `readNumber` reads a number; digits beyond what an unsigned integer of 64 bits can hold are
  dropped, and the ones before the point still count as powers of ten;
* `readValue` reads a value with the containers that may still be opened as its measure;
* `Document.ofText` reads a whole text.
-/

namespace RecordRules

/-- A draft with the text behind it; there is none where the writing broke off. -/
structure Reading where
  /-- What was read. -/
  draft : Draft
  /-- The text that is left. -/
  rest : Option (List Char)

namespace Json

/-! ## 1. Blanks and names -/

/-- Whether a character may stand between the parts of a text. -/
def isBlank (c : Char) : Bool := c == ' ' || c == '\n' || c == '\t' || c == '\r'

/-- The text after blanks. -/
def skipBlanks (cs : List Char) : List Char := cs.dropWhile isBlank

/-- The place where nothing begins a value. -/
def nothingAt (fault : Fault) : Draft := .broken .nothing fault fault

/-- The rest of a name such as `null`. -/
def readName (value : Draft) : List Char → List Char → Reading
  | [], cs => ⟨value, some cs⟩
  | _ :: _, [] => ⟨.broken .scalar .truncated .truncated, none⟩
  | n :: ns, c :: cs =>
    if n = c then readName value ns cs else ⟨.broken .scalar .malformed .malformed, none⟩

/-! ## 2. Strings -/

/-- The value of a hexadecimal digit. -/
def hexValue? (c : Char) : Option Nat :=
  if '0' ≤ c ∧ c ≤ '9' then some (c.toNat - 48)
  else if 'a' ≤ c ∧ c ≤ 'f' then some (c.toNat - 87)
  else if 'A' ≤ c ∧ c ≤ 'F' then some (c.toNat - 55)
  else none

/-- The value of four hexadecimal digits. -/
def hexUnit? (a b c d : Char) : Option Nat :=
  (hexValue? a).bind fun a => (hexValue? b).bind fun b => (hexValue? c).bind fun c =>
    (hexValue? d).map fun d => 4096 * a + 256 * b + 16 * c + d

/-- The character of a short escape. -/
def shortEscape? : Char → Option Char
  | '"' => some '"'
  | '\\' => some '\\'
  | '/' => some '/'
  | 'b' => some '\x08'
  | 'f' => some '\x0c'
  | 'n' => some '\n'
  | 'r' => some '\r'
  | 't' => some '\t'
  | _ => none

/-- Where a string stands: the characters read, last first; whether a lone half of a surrogate pair
    was met; and a first half that still waits for the second. -/
structure StringState where
  /-- The characters, last first. -/
  chars : List Char
  /-- Whether a lone half was met. -/
  lone : Bool
  /-- The first half that waits. -/
  half : Option Nat

/-- One more character. A half that waited is alone now. -/
def StringState.push (s : StringState) (c : Char) : StringState :=
  ⟨c :: s.chars, s.lone || s.half.isSome, none⟩

/-- One more unit of sixteen bits, as an escape gives it. -/
def StringState.pushUnit (s : StringState) (n : Nat) : StringState :=
  if 0xD800 ≤ n ∧ n < 0xDC00 then ⟨s.chars, s.lone || s.half.isSome, some n⟩
  else if 0xDC00 ≤ n ∧ n < 0xE000 then
    match s.half with
    | some first => ⟨Char.ofNat ((first - 0xD800) * 1024 + (n - 0xDC00) + 0x10000) :: s.chars,
        s.lone, none⟩
    | none => ⟨s.chars, true, none⟩
  else s.push (Char.ofNat n)

/-- The break of a string: when half a pair was met before, reading stopped there already. -/
def StringState.broken (s : StringState) (fault : Fault) : Reading :=
  ⟨.broken .text (if s.lone then .malformed else fault) fault, none⟩

/-- The whole string, unless a lone half was met. -/
def StringState.text (s : StringState) : Option String :=
  if s.lone || s.half.isSome then none else some (String.ofList s.chars.reverse)

/-- How many bytes the characters take. -/
def utf8Length (cs : List Char) : Nat := (String.ofList cs).utf8ByteSize

/-- The rest of a string, after its opening mark. An escape by four digits with fewer than four
    bytes behind it is cut off. -/
def readString (s : StringState) : List Char → Reading
  | [] => s.broken .truncated
  | '"' :: rest => ⟨.string s.text, some rest⟩
  | '\\' :: [] => s.broken .truncated
  | '\\' :: 'u' :: a :: b :: c :: d :: rest =>
    match hexUnit? a b c d with
    | some n => readString (s.pushUnit n) rest
    | none => s.broken .malformed
  | '\\' :: 'u' :: rest => s.broken (if utf8Length rest < 4 then .truncated else .malformed)
  | '\\' :: c :: rest =>
    match shortEscape? c with
    | some c => readString (s.push c) rest
    | none => s.broken .malformed
  | c :: rest => if c.toNat < 0x20 then s.broken .malformed else readString (s.push c) rest

/-! ## 3. Numbers -/

/-- The leading digits of a text, and the text behind them. -/
def spanDigits (cs : List Char) : List Nat × List Char :=
  ((cs.takeWhile Char.isDigit).map fun c => c.toNat - 48, cs.dropWhile Char.isDigit)

/-- Digits taken into a value that an unsigned integer of 64 bits can hold, with the number of the
    digits that were dropped. Behind a dropped digit all are dropped. -/
def takeDigits (value dropped : Nat) : List Nat → Nat × Nat
  | [] => (value, dropped)
  | d :: ds =>
    if dropped = 0 ∧ 10 * value + d ≤ greatestNatural then takeDigits (10 * value + d) 0 ds
    else takeDigits value (dropped + 1) ds

/-- The parts of a number: its sign, the digits before and behind the point, and the exponent. -/
structure NumberParts where
  /-- Whether a minus stands in front. -/
  negative : Bool
  /-- The digits before the point. -/
  whole : List Nat
  /-- The digits behind the point, when there is one. -/
  fraction : Option (List Nat)
  /-- The exponent, when there is one. -/
  exponent : Option Int

/-- The number of its parts; `none` when it is too large to be kept. -/
def NumberParts.value (p : NumberParts) : Option Number :=
  let (whole, dropped) := takeDigits 0 0 p.whole
  let fraction := p.fraction.getD []
  let (digits, lost) := takeDigits whole 0 fraction
  let power := (dropped : Int) - (fraction.length - lost : Int) + p.exponent.getD 0
  let isPlain := p.fraction.isNone && p.exponent.isNone && dropped == 0
  if isPlain && !p.negative then some (.int whole)
  else if isPlain && whole ≠ 0 && whole ≤ (-leastInteger).toNat then some (.int (-whole))
  else (Magnitude.ofDecimal? digits power).map (.float p.negative)

/-- The break of a number where a digit is missing. Skipping does not tell the end of the text from
    another character. -/
def missingDigit (cs : List Char) : Reading :=
  ⟨.broken .scalar (if cs.isEmpty then .truncated else .malformed) .malformed, none⟩

/-- The exponent of a number, if one stands here, and the number with it. -/
def readExponent (p : NumberParts) (cs : List Char) : Reading :=
  match cs with
  | c :: rest =>
    if c = 'e' ∨ c = 'E' then
      let (negative, rest) := match rest with
        | '-' :: rest => (true, rest)
        | '+' :: rest => (false, rest)
        | rest => (false, rest)
      let (digits, after) := spanDigits rest
      if digits.isEmpty then missingDigit after
      else
        let n : Nat := digits.foldl (fun n d => 10 * n + d) 0
        let exponent : Int := if negative then -(n : Int) else n
        ⟨.number { p with exponent := some exponent }.value, some after⟩
    else ⟨.number p.value, some cs⟩
  | [] => ⟨.number p.value, some []⟩

/-- The fraction of a number, if one stands here, and what follows. -/
def readFraction (p : NumberParts) (cs : List Char) : Reading :=
  match cs with
  | '.' :: rest =>
    let (digits, after) := spanDigits rest
    if digits.isEmpty then missingDigit after
    else readExponent { p with fraction := some digits } after
  | _ => readExponent p cs

/-- A number, after its sign. A zero in front stands alone. -/
def readNumber (negative : Bool) (cs : List Char) : Reading :=
  match spanDigits cs with
  | ([], after) => missingDigit after
  | (0 :: _ :: _, _) => ⟨.broken .scalar .malformed .malformed, none⟩
  | (whole, after) => readFraction ⟨negative, whole, none, none⟩ after

/-! ## 4. Containers -/

/-- Items with the end of their array. -/
structure ItemsReading where
  /-- The items, as far as they go. -/
  items : List Draft
  /-- The end of the array. -/
  closing : Closing
  /-- The text that is left. -/
  rest : Option (List Char)

/-- The items of an array from the next one on; `first` says that none stands before it. `read`
    reads one of them, and there are fewer than `budget`. -/
def readItems (read : List Char → Reading) : Nat → Bool → List Char → ItemsReading
  | 0, _, _ => ⟨[], .broken .malformed, none⟩
  | budget + 1, first, cs =>
    let item (cs : List Char) : ItemsReading :=
      let one := read cs
      match one.rest with
      | none => ⟨[one.draft], .broken .malformed, none⟩
      | some rest =>
        let more := readItems read budget false rest
        { more with items := one.draft :: more.items }
    match skipBlanks cs with
    | [] => ⟨[], .broken .truncated, none⟩
    | c :: rest =>
      if c = ']' then ⟨[], .closed, some rest⟩
      else if first then item (c :: rest)
      else if c = ',' then item rest
      else ⟨[], .broken .malformed, none⟩

/-- Members with the end of their object. -/
structure MembersReading where
  /-- The members, as far as they go. -/
  members : List DraftMember
  /-- The end of the object. -/
  closing : Closing
  /-- The text that is left. -/
  rest : Option (List Char)

/-- The value of a member, behind its name. -/
def readMemberValue (read : List Char → Reading) (cs : List Char) : Reading :=
  match skipBlanks cs with
  | [] => ⟨nothingAt .truncated, none⟩
  | ':' :: rest => read rest
  | _ => ⟨nothingAt .malformed, none⟩

/-- The members of an object from the next one on; `first` says that none stands before it. What
    stands at the place of a name is read even when it is no string. -/
def readMembers (read : List Char → Reading) : Nat → Bool → List Char → MembersReading
  | 0, _, _ => ⟨[], .broken .malformed, none⟩
  | budget + 1, first, cs =>
    let stop (name : Draft) : MembersReading :=
      ⟨[.mk name (nothingAt .malformed)], .broken .malformed, none⟩
    let member (cs : List Char) : MembersReading :=
      match skipBlanks cs with
      | '"' :: rest =>
        let name := readString ⟨[], false, none⟩ rest
        match name.rest with
        | none => stop name.draft
        | some rest =>
          let value := readMemberValue read rest
          match value.rest with
          | none => ⟨[.mk name.draft value.draft], .broken .malformed, none⟩
          | some rest =>
            let more := readMembers read budget false rest
            { more with members := .mk name.draft value.draft :: more.members }
      | rest => stop (read rest).draft
    match skipBlanks cs with
    | [] => if first then stop (nothingAt .truncated) else ⟨[], .broken .truncated, none⟩
    | c :: rest =>
      if c = '\x7d' then ⟨[], .closed, some rest⟩
      else if first then member (c :: rest)
      else if c = ',' then member rest
      else ⟨[], .broken .malformed, none⟩

/-! ## 5. Values -/

/-- A value that is no container. -/
def readPlain (cs : List Char) : Reading :=
  match cs with
  | [] => ⟨nothingAt .truncated, none⟩
  | '"' :: rest => readString ⟨[], false, none⟩ rest
  | 'n' :: rest => readName .null ['u', 'l', 'l'] rest
  | 't' :: rest => readName (.bool true) ['r', 'u', 'e'] rest
  | 'f' :: rest => readName (.bool false) ['a', 'l', 's', 'e'] rest
  | '-' :: rest => readNumber true rest
  | c :: rest => if c.isDigit then readNumber false (c :: rest) else ⟨nothingAt .malformed, none⟩

/-- A value, with at most so many containers opened and at most `budget` parts in each. One that may
    not be opened any more breaks off at once. -/
def readValue (budget : Nat) : Nat → List Char → Reading
  | 0, cs =>
    match skipBlanks cs with
    | '[' :: _ => ⟨.array [] (.broken .malformed), none⟩
    | '\x7b' :: _ => ⟨.object [] (.broken .malformed), none⟩
    | cs => readPlain cs
  | depth + 1, cs =>
    match skipBlanks cs with
    | '[' :: rest =>
      let r := readItems (readValue budget depth) budget true rest
      ⟨.array r.items r.closing, r.rest⟩
    | '\x7b' :: rest =>
      let r := readMembers (readValue budget depth) budget true rest
      ⟨.object r.members r.closing, r.rest⟩
    | cs => readPlain cs

/-- How many containers may be open at once. -/
def depthLimit : Nat := 127

end Json

/-- A text read as JSON: its value, and whether nothing but blanks follows it. -/
structure Document where
  /-- The value. -/
  draft : Draft
  /-- Whether the text ends behind it. -/
  ends : Bool

/-- The document of a text. A part takes at least one character, so the length of the text bounds
    the number of parts. -/
def Document.ofText (text : String) : Document :=
  let cs := text.toList
  let r := Json.readValue (cs.length + 1) Json.depthLimit cs
  ⟨r.draft, match r.rest with
    | none => true
    | some rest => (Json.skipBlanks rest).isEmpty⟩

/-- The value of a text. -/
def Json.ofText (text : String) : Except Fault Json :=
  let document := Document.ofText text
  match document.draft.toJson with
  | .error fault => .error fault
  | .ok j => if document.ends then .ok j else .error .malformed

end RecordRules
