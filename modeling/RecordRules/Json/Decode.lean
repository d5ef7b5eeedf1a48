import RecordRules.Json.Printer
import RecordRules.Json.Reader
import RecordRules.Text.Quoted

/-!
# Decoding drafts

A decoder takes a draft for a value of some shape. It goes through the draft in the order of the
text, and the first thing wrong decides the error, be it a shape or broken writing
(`DecodeError`). A value of the wrong shape is named without looking into it, so a container that
breaks off further down is still just a sequence or a map.

Choices among names (`Draft.variant`) are written as a string, or as an object with the name as its
one member and `null` as its value. Anything else there is no choice at all and counts as
malformed.
-/

namespace RecordRules

/-! ## 1. Errors -/

/-- What was found at the place of another shape. -/
inductive Found where
  /-- The value `null`. -/
  | null
  /-- A truth value. -/
  | bool (b : Bool)
  /-- A number. -/
  | number (n : Number)
  /-- A string. -/
  | string (s : String)
  /-- An array. -/
  | sequence
  /-- An object. -/
  | map
  deriving DecidableEq, Repr

/-- What was found, in words. -/
def Found.text : Found → String
  | .null => "null"
  | .bool b => "boolean `" ++ toString b ++ "`"
  | .number (.int n) => "integer `" ++ toString n ++ "`"
  | .number n => "floating point `" ++ String.ofList (Json.numberText n) ++ "`"
  | .string s => "string " ++ Text.quoted s
  | .sequence => "sequence"
  | .map => "map"

/-- Why a draft is not what was asked for. -/
inductive DecodeError where
  /-- The writing is broken. -/
  | fault (fault : Fault)
  /-- A value has another shape. -/
  | invalidType (found : Found) (wanted : String)
  /-- A positional form is too short. -/
  | invalidLength (length : Nat) (wanted : String)
  /-- A member is missing. -/
  | missingField (name : String)
  /-- A member is given twice. -/
  | duplicateField (name : String)
  /-- A name is none of the choices. -/
  | unknownVariant (name : String) (choices : List String)
  deriving DecidableEq, Repr

/-- A name in grave accents. -/
def graved (name : String) : String := "`" ++ name ++ "`"

/-- The choices in words; there are two at least. -/
def choicesText : List String → String
  | [first, second] => graved first ++ " or " ++ graved second
  | choices => "one of " ++ ", ".intercalate (choices.map graved)

/-- The error in words, unless it is one of the writing. -/
def DecodeError.message? : DecodeError → Option String
  | .fault _ => none
  | .invalidType found wanted => some ("invalid type: " ++ found.text ++ ", expected " ++ wanted)
  | .invalidLength length wanted =>
    some ("invalid length " ++ toString length ++ ", expected " ++ wanted)
  | .missingField name => some ("missing field " ++ graved name)
  | .duplicateField name => some ("duplicate field " ++ graved name)
  | .unknownVariant name choices =>
    some ("unknown variant " ++ graved name ++ ", expected " ++ choicesText choices)

/-! ## 2. Decoders -/

/-- The result of decoding. -/
abbrev Decoded (α : Type) := Except DecodeError α

/-- A fault as an error, and nothing when there is none. -/
def Decoded.unless : Option Fault → Decoded Unit
  | none => .ok ()
  | some fault => .error (.fault fault)

namespace Draft

/-- The error that a draft is not of the wanted shape, or that its writing is broken. -/
def mismatch (wanted : String) : Draft → DecodeError
  | .null => .invalidType .null wanted
  | .bool b => .invalidType (.bool b) wanted
  | .number (some n) => .invalidType (.number n) wanted
  | .number none => .fault .malformed
  | .string (some s) => .invalidType (.string s) wanted
  | .string none => .fault .malformed
  | .array _ _ => .invalidType .sequence wanted
  | .object _ _ => .invalidType .map wanted
  | .broken _ reading _ => .fault reading

/-- Nothing follows the last item that is asked for. -/
def finish (closing : Closing) : Decoded Unit := Decoded.unless (closingFault? closing)

/-- No further item stands in a positional form. -/
def noMore {α : Type} (rest : List α) (closing : Closing) : Decoded Unit :=
  if rest.isEmpty then finish closing else .error (.fault .malformed)

/-- The name of a member. -/
def memberKey (name : Draft) : Decoded String := name.memberName.mapError .fault

/-- A value that nobody asks for. -/
def skip (d : Draft) : Decoded Unit := Decoded.unless d.skipFault?

/-- A string. -/
def asText : Draft → Decoded String
  | .string (some s) => .ok s
  | d => .error (d.mismatch "a string")

/-- The value `null`, which stands for no value. -/
def asUnit : Draft → Decoded Unit
  | .null => .ok ()
  | d => .error (d.mismatch "unit")

/-- Whether the draft is `null`. -/
def isNull : Draft → Bool
  | .null => true
  | _ => false

/-- The name of a choice in its object form. -/
def variantName : Draft → Decoded String
  | .string (some s) => .ok s
  | d => .error (d.mismatch "variant identifier")

/-- A choice among names; `pick` takes the name. -/
def variant {α : Type} (pick : String → Decoded α) : Draft → Decoded α
  | .string (some s) => pick s
  | .object (.mk name value :: rest) closing => do
    let choice ← pick (← variantName name)
    value.asUnit
    noMore rest closing
    pure choice
  | .object [] closing => do
    finish closing
    .error (.fault .malformed)
  | .broken .text reading _ => .error (.fault reading)
  | .broken .nothing reading _ => .error (.fault reading)
  | _ => .error (.fault .malformed)

/-- A choice among names that `ofName?` knows. -/
def choice {α : Type} (ofName? : String → Option α) (choices : List String) : Draft → Decoded α :=
  variant fun name =>
    match ofName? name with
    | some value => .ok value
    | none => .error (.unknownVariant name choices)

/-- Items of one shape. -/
def itemsOf {α : Type} (decode : Draft → Decoded α) : List Draft → Closing → Decoded (List α)
  | [], closing => (finish closing).map fun _ => []
  | item :: items, closing => do
    let a ← decode item
    let rest ← itemsOf decode items closing
    pure (a :: rest)

/-- A sequence of one shape. -/
def sequenceOf {α : Type} (decode : Draft → Decoded α) : Draft → Decoded (List α)
  | .array items closing => itemsOf decode items closing
  | d => .error (d.mismatch "a sequence")

end Draft

/-- What a whole text decodes to; nothing but blanks may follow it. -/
def Document.decode {α : Type} (document : Document) (decode : Draft → Decoded α) : Decoded α := do
  let a ← decode document.draft
  if document.ends then pure a else .error (.fault .malformed)

end RecordRules
