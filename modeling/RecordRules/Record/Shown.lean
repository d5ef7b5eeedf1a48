import RecordRules.Record.Basic
import RecordRules.Text.Quoted

/-!
# Field values for people

A field value is shown by the name of its form with its contents behind it. The contents of a
nested record are left out.
-/

namespace RecordRules

/-- A kind as it is shown inside a value. -/
def FieldKind.shown : FieldKind → String
  | .string => "String"
  | .int => "Int"
  | .stringSeq => "StringSeq"
  | .intSeq => "IntSeq"
  | .record => "Record"
  | .other => "Other"

/-- Items in brackets. -/
def shownList (items : List String) : String := "[" ++ ", ".intercalate items ++ "]"

/-- A leaf as it is shown. -/
def Leaf.shown : Leaf → String
  | .str s => "Str(" ++ Text.quoted s ++ ")"
  | .int n => "Int(" ++ toString n ++ ")"
  | .strSeq items => "StrSeq(" ++ shownList (items.map Text.quoted) ++ ")"
  | .intSeq items => "IntSeq(" ++ shownList (items.map toString) ++ ")"
  | .other typeName => "Other \x7b type_name: " ++ Text.quoted typeName ++ " \x7d"
  | .mismatch expected actual =>
    "Mismatch \x7b expected: " ++ expected.shown ++ ", actual: " ++ Text.quoted actual ++ " \x7d"

/-- A field value as it is shown. -/
def FieldValue.shown : FieldValue → String
  | .leaf v => v.shown
  | .record _ => "Record(..)"

end RecordRules
