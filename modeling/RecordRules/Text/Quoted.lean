import RecordRules.Unicode.Property

/-!
# Quoted text for people

A text is shown to people in quotation marks, with everything escaped that would be misread: the
marks themselves, backslashes, line ends and tabs by their short escapes, and by its number every
character that cannot be shown or that would join the character before it.
-/

namespace RecordRules.Text

/-- The hexadecimal digits of a number in lower case. -/
def hexText (n : Nat) : List Char := Nat.toDigits 16 n

/-- A character as it is shown between quotation marks. -/
def shown (c : Char) : List Char :=
  match c with
  | '\x00' => ['\\', '0']
  | '\t' => ['\\', 't']
  | '\r' => ['\\', 'r']
  | '\n' => ['\\', 'n']
  | '\\' => ['\\', '\\']
  | '"' => ['\\', '"']
  | c =>
    if Unicode.graphemeExtend.contains c || !Unicode.printable.contains c then
      ['\\', 'u', '\x7b'] ++ hexText c.toNat ++ ['\x7d']
    else [c]

/-- A text as it is shown to people. -/
def quoted (s : String) : String := String.ofList ('"' :: s.toList.flatMap shown ++ ['"'])

end RecordRules.Text
