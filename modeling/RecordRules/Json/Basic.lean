import RecordRules.Integer
import RecordRules.Json.Double

/-!
# JSON values

A number is an integer when it is written without fraction and exponent and lies between the least
signed and the greatest unsigned integer of 64 bits; every other number is a floating-point
number, and so is `-0`. Objects are lists of members with distinct names (`Json.insert` keeps them
so, and the last of two members with one name wins).
-/

namespace RecordRules

/-- A number. -/
inductive Number where
  /-- An integer. -/
  | int (n : Int)
  /-- A floating-point number by its sign and its magnitude. -/
  | float (negative : Bool) (magnitude : Magnitude)
  deriving DecidableEq, Repr

/-- A JSON value. -/
inductive Json where
  /-- The value `null`. -/
  | null
  /-- A truth value. -/
  | bool (b : Bool)
  /-- A number. -/
  | number (n : Number)
  /-- A string. -/
  | string (s : String)
  /-- An array. -/
  | array (items : List Json)
  /-- An object by its members. -/
  | object (members : List (String × Json))
  deriving Repr, Inhabited

namespace Json

/-- An integer as a value. -/
def int (n : Int) : Json := .number (.int n)

/-- A natural number as a value. -/
def nat (n : Nat) : Json := .int n

/-- The integer of a number that fits into 64 bits with a sign. -/
def asInt? : Json → Option Int
  | .number (.int n) => if n ≤ greatestInteger then some n else none
  | _ => none

/-- The text of a string. -/
def asString? : Json → Option String
  | .string s => some s
  | _ => none

/-- Whether the value is an object. -/
def isObject : Json → Bool
  | .object _ => true
  | _ => false

/-- The name of the type of a value. Integers beyond 64 bits with a sign count as other numbers. -/
def typeName : Json → String
  | .null => "null"
  | .bool _ => "bool"
  | .number (.int n) => if n ≤ greatestInteger then "int" else "number"
  | .number (.float ..) => "number"
  | .string _ => "string"
  | .array _ => "array"
  | .object _ => "object"

/-- The value of the member with a name. -/
def member? (name : String) : List (String × Json) → Option Json
  | [] => none
  | (key, value) :: rest => if key = name then some value else member? name rest

/-- The members with one more, which takes the place of one with the same name. -/
def insert (name : String) (value : Json) : List (String × Json) → List (String × Json)
  | [] => [(name, value)]
  | (key, old) :: rest =>
    if key = name then (key, value) :: rest else (key, old) :: insert name value rest

/-- The member of a value, which only an object has. -/
def get? (name : String) : Json → Option Json
  | .object members => member? name members
  | _ => none

/-- The inserted member is found. -/
theorem member?_insert_self (name : String) (value : Json) (members : List (String × Json)) :
    member? name (insert name value members) = some value := by
  induction members with
  | nil => simp [insert, member?]
  | cons m rest ih =>
    obtain ⟨key, old⟩ := m
    by_cases h : key = name
    · simp [insert, member?, h]
    · simp [insert, member?, h, ih]

/-- Other members are left alone. -/
theorem member?_insert_of_ne {name other : String} (h : other ≠ name) (value : Json)
    (members : List (String × Json)) :
    member? other (insert name value members) = member? other members := by
  induction members with
  | nil => simp [insert, member?, Ne.symm h]
  | cons m rest ih =>
    obtain ⟨key, old⟩ := m
    by_cases hk : key = name
    · subst hk
      simp [insert, member?, Ne.symm h]
    · by_cases ho : key = other
      · subst ho
        simp [insert, member?, h]
      · simp [insert, member?, hk, ho, ih]

end Json

end RecordRules
