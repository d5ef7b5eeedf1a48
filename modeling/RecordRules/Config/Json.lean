import RecordRules.Config
import RecordRules.Json.Decode

/-!
# Configurations as JSON

A configuration is written as an object with both of its parts. Decoding takes an object or a
positional array; what is missing keeps its standard value, and unknown members are skipped.
-/

namespace RecordRules

/-- A policy by its name. -/
def EmptySequence.decode : Draft → Decoded EmptySequence :=
  Draft.choice EmptySequence.ofName? ["vacuous", "reject"]

namespace Config

/-- The written form of a configuration as a value. -/
def toJson (config : Config) : Json :=
  .object [("annotation_key", .string config.annotationKey),
    ("empty_sequence", .string config.emptySequence.name)]

/-- The written form of a configuration. -/
def text (config : Config) : String := config.toJson.print

/-- The parts of a configuration met so far. -/
structure Parts where
  /-- The annotation key. -/
  annotationKey : Option String := none
  /-- The policy for empty sequences. -/
  emptySequence : Option EmptySequence := none

/-- The configuration of its parts. -/
def Parts.config (p : Parts) : Config :=
  ⟨p.annotationKey.getD standard.annotationKey, p.emptySequence.getD standard.emptySequence⟩

/-- The members of a configuration. -/
def decodeMembers (parts : Parts) : List DraftMember → Closing → Decoded Config
  | [], closing => (Draft.finish closing).map fun _ => parts.config
  | .mk name value :: members, closing => do
    let key ← name.memberKey
    if key = "annotation_key" then
      if parts.annotationKey.isSome then .error (.duplicateField key)
      else
        let annotationKey ← value.asText
        decodeMembers { parts with annotationKey := some annotationKey } members closing
    else if key = "empty_sequence" then
      if parts.emptySequence.isSome then .error (.duplicateField key)
      else
        let policy ← EmptySequence.decode value
        decodeMembers { parts with emptySequence := some policy } members closing
    else
      value.skip
      decodeMembers parts members closing

/-- A configuration, as an object or as an array of its parts in order. -/
def decode : Draft → Decoded Config
  | .array [] closing => (Draft.finish closing).map fun _ => standard
  | .array [key] closing => do
    let key ← key.asText
    Draft.finish closing
    pure { standard with annotationKey := key }
  | .array (key :: policy :: rest) closing => do
    let key ← key.asText
    let policy ← EmptySequence.decode policy
    Draft.noMore rest closing
    pure ⟨key, policy⟩
  | .object members closing => decodeMembers {} members closing
  | d => .error (d.mismatch "struct ValidatorConfig")

/-- The configuration of a text. -/
def ofText (text : String) : Decoded Config := (Document.ofText text).decode decode

end Config

end RecordRules
