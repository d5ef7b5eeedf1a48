import RecordRules.Record.Basic

/-!
# Declared records

A record can be declared with its values in place, field by field, each with any number of tags: an
annotation key with a rule. Under a key the record has the field once for every tag with that key,
in the order of the declaration; a field without one is left out.

The values have the types of the host. Strings, machine integers and sequences of them are looked
at; a sequence of unsigned bytes is a buffer, and buffers, truth values, floating-point numbers and
sequences of the latter two take no conditions.
-/

namespace RecordRules

/-- The machine integers that fit into 64 bits with a sign. -/
inductive IntType where
  /-- Eight bits with a sign. -/
  | int8
  /-- Sixteen bits with a sign. -/
  | int16
  /-- Thirty-two bits with a sign. -/
  | int32
  /-- Sixty-four bits with a sign. -/
  | int64
  /-- Eight bits without a sign. -/
  | uint8
  /-- Sixteen bits without a sign. -/
  | uint16
  /-- Thirty-two bits without a sign. -/
  | uint32
  deriving DecidableEq, Repr

/-- The types without conditions. -/
inductive OpaqueType where
  /-- Truth values. -/
  | bool
  /-- Floating-point numbers of 32 bits. -/
  | float32
  /-- Floating-point numbers of 64 bits. -/
  | float64
  /-- Buffers of bytes. -/
  | bytes
  /-- Sequences of truth values. -/
  | bools
  /-- Sequences of floating-point numbers of 64 bits. -/
  | float64s
  deriving DecidableEq, Repr

/-- The name of a type without conditions, as errors give it. -/
def OpaqueType.name : OpaqueType → String
  | .bool => "bool"
  | .float32 => "f32"
  | .float64 => "f64"
  | .bytes => "alloc::vec::Vec<u8>"
  | .bools => "alloc::vec::Vec<bool>"
  | .float64s => "alloc::vec::Vec<f64>"

mutual

/-- A value of the host. -/
inductive HostValue where
  /-- A string. -/
  | text (s : String)
  /-- A sequence of strings. -/
  | texts (items : List String)
  /-- A machine integer. -/
  | int (type : IntType) (n : Int)
  /-- A sequence of machine integers. -/
  | ints (type : IntType) (items : List Int)
  /-- A value without conditions. -/
  | without (type : OpaqueType)
  /-- A declared record. -/
  | record (fields : List DeclaredField)

/-- A field of a declared record. -/
inductive DeclaredField where
  /-- A field with its name, its tags and its value. -/
  | mk (name : String) (tags : List (String × String)) (value : HostValue)

end

mutual

/-- A value of the host as the value of a field. -/
def HostValue.fieldValue (key : String) : HostValue → FieldValue
  | .text s => .leaf (.str s)
  | .texts items => .leaf (.strSeq items)
  | .int _ n => .leaf (.int n)
  | .ints .uint8 _ => .leaf (.other OpaqueType.bytes.name)
  | .ints _ items => .leaf (.intSeq items)
  | .without type => .leaf (.other type.name)
  | .record fields => .record (.ofFields (declaredFields key fields))

/-- The fields of a declaration under an annotation key: one for every tag with that key. -/
def declaredFields (key : String) : List DeclaredField → List Field
  | [] => []
  | .mk name tags value :: fields =>
    ((tags.filter fun tag => tag.1 = key).map fun tag =>
      Field.mk name tag.2 (value.fieldValue key)) ++ declaredFields key fields

end

/-- The record of a declaration under an annotation key. -/
def DeclaredField.record (key : String) (fields : List DeclaredField) : Record :=
  .ofFields (declaredFields key fields)

end RecordRules
