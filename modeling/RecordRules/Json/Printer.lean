import RecordRules.Json.Basic

/-!
# Writing JSON

Values are written without blanks, members in their order. In strings a quotation mark and a
backslash are escaped, the control characters below the blank are written by their short escapes or
as four hexadecimal digits, and nothing else changes.

A floating-point number is written with its shortest digits: plainly, with at least one digit on
either side of the point, while its decimal exponent is between -5 and 15, and in scientific form
with a signed exponent outside.
-/

namespace RecordRules.Json

/-! ## 1. Strings -/

/-- A hexadecimal digit in lower case. -/
def hexDigit (n : Nat) : Char := if n < 10 then Char.ofNat (48 + n) else Char.ofNat (87 + n)

/-- A character inside a string. -/
def escaped (c : Char) : List Char :=
  match c with
  | '"' => ['\\', '"']
  | '\\' => ['\\', '\\']
  | '\x08' => ['\\', 'b']
  | '\x0c' => ['\\', 'f']
  | '\n' => ['\\', 'n']
  | '\r' => ['\\', 'r']
  | '\t' => ['\\', 't']
  | c =>
    if c.toNat < 0x20 then ['\\', 'u', '0', '0', hexDigit (c.toNat / 16), hexDigit (c.toNat % 16)]
    else [c]

/-- A string in quotation marks. -/
def quoted (s : String) : List Char := '"' :: s.toList.flatMap escaped ++ ['"']

/-! ## 2. Numbers -/

/-- The written form of a magnitude given by its digits and the power of ten of the last one. -/
def decimalText (digits : Nat) (power : Int) : List Char :=
  let ds := (toString digits).toList
  let point : Int := power + ds.length
  if 0 ≤ power ∧ point ≤ 16 then ds ++ List.replicate power.toNat '0' ++ ['.', '0']
  else if 0 < point ∧ point ≤ 16 then ds.take point.toNat ++ '.' :: ds.drop point.toNat
  else if -5 < point ∧ point ≤ 0 then
    '0' :: '.' :: List.replicate (-point).toNat '0' ++ ds
  else
    let exponent := point - 1
    let sign := if exponent < 0 then '-' else '+'
    let fraction := if ds.length = 1 then [] else '.' :: ds.drop 1
    ds.take 1 ++ fraction ++ 'e' :: sign :: (toString exponent.natAbs).toList

/-- The written form of a number. -/
def numberText : Number → List Char
  | .int n => (toString n).toList
  | .float negative magnitude =>
    let (digits, power) := magnitude.shortest
    let text := if digits = 0 then ['0', '.', '0'] else decimalText digits power
    if negative then '-' :: text else text

/-! ## 3. Values -/

/-- Written parts with a comma between them. -/
def commaJoined (parts : List (List Char)) : List Char := List.intercalate [','] parts

mutual

/-- The written form of a value. -/
def chars : Json → List Char
  | .null => ['n', 'u', 'l', 'l']
  | .bool true => ['t', 'r', 'u', 'e']
  | .bool false => ['f', 'a', 'l', 's', 'e']
  | .number n => numberText n
  | .string s => quoted s
  | .array items => '[' :: commaJoined (itemChars items) ++ [']']
  | .object members => '\x7b' :: commaJoined (memberChars members) ++ ['\x7d']

/-- The written forms of items. -/
def itemChars : List Json → List (List Char)
  | [] => []
  | item :: items => item.chars :: itemChars items

/-- The written forms of members. -/
def memberChars : List (String × Json) → List (List Char)
  | [] => []
  | (name, value) :: members => (quoted name ++ ':' :: value.chars) :: memberChars members

end

/-- The written form of a value as a text. -/
def print (j : Json) : String := String.ofList j.chars

end RecordRules.Json
