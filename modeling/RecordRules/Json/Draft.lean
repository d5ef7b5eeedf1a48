import RecordRules.Json.Basic

/-!
# JSON read as far as it goes

A reader that wants values of given shapes stops at the first thing wrong with a text, be it a
wrong shape or broken writing, so a text may have to be judged by its first half alone. A `Draft`
is what stands in a text up to the place where the writing breaks off: values that are whole,
containers that stay open, and at the end the place itself.

Reading is stricter than skipping. A member that nobody asks for may hold a string with half a
surrogate pair or a number too large to be kept; both are no value, but they are no break either.
And a number that ends too early counts as cut off when it is read and as malformed when it is
skipped. So a break carries a fault for each of the two.
-/

namespace RecordRules

/-- How a text fails to be JSON. -/
inductive Fault where
  /-- Something stands where it must not. -/
  | malformed
  /-- The text ends too early. -/
  | truncated
  deriving DecidableEq, Repr

/-- What the broken-off value began as. -/
inductive Beginning where
  /-- Nothing that begins a value. -/
  | nothing
  /-- A string. -/
  | text
  /-- A number or a name such as `null`. -/
  | scalar
  deriving DecidableEq, Repr

/-- Whether the end of a container was found. -/
inductive Closing where
  /-- It was. -/
  | closed
  /-- Something else was found behind the last item. -/
  | broken (fault : Fault)
  deriving DecidableEq, Repr

mutual

/-- A JSON value as far as it is written. -/
inductive Draft where
  /-- The value `null`. -/
  | null
  /-- A truth value. -/
  | bool (b : Bool)
  /-- A number, unless it is too large to be kept. -/
  | number (n : Option Number)
  /-- A string, unless half a surrogate pair stands in it. -/
  | string (s : Option String)
  /-- An array. -/
  | array (items : List Draft) (closing : Closing)
  /-- An object. -/
  | object (members : List DraftMember) (closing : Closing)
  /-- The place where the writing breaks off, with the fault of reading it and the fault of
      skipping it. -/
  | broken (beginning : Beginning) (reading skipping : Fault)

/-- A member of an object. What stands at the place of the name may be anything. -/
inductive DraftMember where
  /-- A name with its value. -/
  | mk (name value : Draft)

end

namespace Draft

/-! ## 1. Skipping -/

/-- The fault of a closing. -/
def closingFault? : Closing → Option Fault
  | .closed => none
  | .broken fault => some fault

/-- The fault met when what stands at the place of a name is skipped. -/
def nameSkipFault? : Draft → Option Fault
  | .string _ => none
  | .broken .text _ skipping => some skipping
  | .broken .nothing _ skipping => some skipping
  | _ => some .malformed

mutual

/-- The first fault met when a value is skipped. -/
def skipFault? : Draft → Option Fault
  | .null | .bool _ | .number _ | .string _ => none
  | .array items closing => itemsSkipFault? items closing
  | .object members closing => membersSkipFault? members closing
  | .broken _ _ skipping => some skipping

/-- The first fault met when items are skipped. -/
def itemsSkipFault? : List Draft → Closing → Option Fault
  | [], closing => closingFault? closing
  | item :: items, closing =>
    match item.skipFault? with
    | some fault => some fault
    | none => itemsSkipFault? items closing

/-- The first fault met when members are skipped. -/
def membersSkipFault? : List DraftMember → Closing → Option Fault
  | [], closing => closingFault? closing
  | .mk name value :: members, closing =>
    match name.nameSkipFault? with
    | some fault => some fault
    | none =>
      match value.skipFault? with
      | some fault => some fault
      | none => membersSkipFault? members closing

end

/-! ## 2. Whole values -/

/-- The name of a member, which is a string. -/
def memberName : Draft → Except Fault String
  | .string (some s) => .ok s
  | .string none => .error .malformed
  | .broken .text reading _ => .error reading
  | .broken .nothing reading _ => .error reading
  | _ => .error .malformed

mutual

/-- The value of a draft, or its first fault. Of two members with one name the last wins. -/
def toJson : Draft → Except Fault Json
  | .null => .ok .null
  | .bool b => .ok (.bool b)
  | .number (some n) => .ok (.number n)
  | .number none => .error .malformed
  | .string (some s) => .ok (.string s)
  | .string none => .error .malformed
  | .array items closing => (itemsToJson items closing).map .array
  | .object members closing => (membersToJson [] members closing).map .object
  | .broken _ reading _ => .error reading

/-- The values of items, in order. -/
def itemsToJson : List Draft → Closing → Except Fault (List Json)
  | [], .closed => .ok []
  | [], .broken fault => .error fault
  | item :: items, closing =>
    match item.toJson with
    | .error fault => .error fault
    | .ok j => (itemsToJson items closing).map (j :: ·)

/-- The values of members, behind those already at hand. -/
def membersToJson (known : List (String × Json)) :
    List DraftMember → Closing → Except Fault (List (String × Json))
  | [], .closed => .ok known
  | [], .broken fault => .error fault
  | .mk name value :: members, closing =>
    match name.memberName with
    | .error fault => .error fault
    | .ok key =>
      match value.toJson with
      | .error fault => .error fault
      | .ok j => membersToJson (Json.insert key j known) members closing

end

mutual

/-- A value as the draft that it is read from. -/
def ofJson : Json → Draft
  | .null => .null
  | .bool b => .bool b
  | .number n => .number (some n)
  | .string s => .string (some s)
  | .array items => .array (ofItems items) .closed
  | .object members => .object (ofMembers members) .closed

/-- Items as drafts. -/
def ofItems : List Json → List Draft
  | [] => []
  | item :: items => ofJson item :: ofItems items

/-- Members as drafts. -/
def ofMembers : List (String × Json) → List DraftMember
  | [] => []
  | (name, value) :: members => .mk (.string (some name)) (ofJson value) :: ofMembers members

end

end Draft

end RecordRules
