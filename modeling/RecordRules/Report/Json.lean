import RecordRules.Json.Decode
import RecordRules.Report

/-!
# Reports as JSON

A report has two JSON forms. For storage it is the array of its violations, each with its field and
the name of its kind (`Report.toJson`), and that form is decoded again. For transport it is an
object that says whether the record is valid, with a code and a description for every violation
(`Report.summary`).
-/

namespace RecordRules

/-- A kind of violation by its name. -/
def ViolationKind.decode : Draft → Decoded ViolationKind :=
  Draft.choice ViolationKind.ofName? (ViolationKind.all.map ViolationKind.name)

namespace Violation

/-- The stored form of a violation. -/
def toJson (v : Violation) : Json :=
  .object [("field", .string v.field), ("kind", .string v.kind.name)]

/-- What a violation is called in messages. -/
def shape : String := "struct Violation"

/-- The members of a violation; both must be there. -/
def decodeMembers (field : Option String) (kind : Option ViolationKind) :
    List DraftMember → Closing → Decoded Violation
  | [], closing => do
    Draft.finish closing
    match field, kind with
    | none, _ => .error (.missingField "field")
    | _, none => .error (.missingField "kind")
    | some field, some kind => pure ⟨field, kind⟩
  | .mk name value :: members, closing => do
    let key ← name.memberKey
    if key = "field" then
      if field.isSome then .error (.duplicateField key)
      else
        let field ← value.asText
        decodeMembers (some field) kind members closing
    else if key = "kind" then
      if kind.isSome then .error (.duplicateField key)
      else
        let kind ← ViolationKind.decode value
        decodeMembers field (some kind) members closing
    else
      value.skip
      decodeMembers field kind members closing

/-- A violation, as an object or as an array of its two parts. -/
def decode : Draft → Decoded Violation
  | .array [] closing => do
    Draft.finish closing
    .error (.invalidLength 0 (shape ++ " with 2 elements"))
  | .array [field] closing => do
    let _ ← field.asText
    Draft.finish closing
    .error (.invalidLength 1 (shape ++ " with 2 elements"))
  | .array (field :: kind :: rest) closing => do
    let field ← field.asText
    let kind ← ViolationKind.decode kind
    Draft.noMore rest closing
    pure ⟨field, kind⟩
  | .object members closing => decodeMembers none none members closing
  | d => .error (d.mismatch shape)

end Violation

namespace Report

/-- The stored form of a report. -/
def toJson (r : Report) : Json := .array (r.violations.map Violation.toJson)

/-- The stored form of a report as a text. -/
def text (r : Report) : String := r.toJson.print

/-- A report in its stored form. -/
def decode (d : Draft) : Decoded Report := (d.sequenceOf Violation.decode).map Report.mk

/-- The report of a text in the stored form. -/
def ofText (text : String) : Decoded Report := (Document.ofText text).decode decode

/-- The transport form of a violation. -/
def entry (v : Violation) : Json :=
  .object [("field", .string v.field), ("code", .string v.kind.code),
    ("message", .string v.kind.description)]

/-- The transport form of a report. -/
def summary (r : Report) : Json :=
  .object [("valid", .bool r.isValid), ("violations", .array (r.violations.map entry))]

end Report

end RecordRules
