import Mathlib.Data.List.Forall2
import RecordRules.Pattern.Reader
import RecordRules.Proofs.Json.Numbers
import RecordRules.Proofs.Numeral
import RecordRules.Proofs.Schema.Declared

/-!
# Members have the declared kind, or mismatch

The value of a declared field depends on its kind and on the member of its name alone. What a value
is read from is said without the reader (`Leaf.ReadFrom`, `FieldValue.ReadFrom`): a string from a
string, an integer from an integer of 64 bits with a sign, a sequence from an array of nothing but
such elements, a record from an object, and a value without conditions from anything, of which only
the name of its type is kept. These names are spelled out in `Json.TypeNamed`.

* `Json.typeNamed_iff`: every value has one of these names;
* `Json.asString?_eq_some_iff`, `Json.asInt?_eq_some_iff`, `mapM_eq_some_iff`: what strings,
  integers and sequences are taken from;
* `Leaf.ofJson?_eq_some_iff`, `Schema.bindMember_eq_iff`: a value is read exactly when it has the
  declared kind and is read from the member;
* `Schema.bindMember_eq_mismatch_iff`: everything else is a mismatch, and a missing member is told
  from one of another shape (`Schema.bindMember_eq_missing_iff`);
* `Schema.Typed` puts this together for one declared field, `Schema.bindFields_typed` says it of all
  of them.

**`members_typed_exactly`** says it of whole objects.
-/

namespace RecordRules

/-! ## 1. What values are read from -/

/-- The name of the type of a value. An integer of 64 bits with a sign is told from every other
    number. -/
inductive Json.TypeNamed : Json → String → Prop where
  | null : TypeNamed .null "null"
  | bool (b : Bool) : TypeNamed (.bool b) "bool"
  | int {n : Int} (h : IntegerRange.signed.Holds n) : TypeNamed (.number (.int n)) "int"
  /-- An integer that is out of range is no `int`. -/
  | beyond {n : Int} (h : ¬IntegerRange.signed.Holds n) : TypeNamed (.number (.int n)) "number"
  | float (negative : Bool) (magnitude : Magnitude) :
      TypeNamed (.number (.float negative magnitude)) "number"
  | string (s : String) : TypeNamed (.string s) "string"
  | array (items : List Json) : TypeNamed (.array items) "array"
  | object (members : List (String × Json)) : TypeNamed (.object members) "object"

/-- What a leaf is read from. -/
def Leaf.ReadFrom : Leaf → Json → Prop
  | .str s, j => j = .string s
  | .int n, j => j = .int n ∧ IntegerRange.signed.Holds n
  | .strSeq items, j => j = .array (items.map .string)
  | .intSeq items, j => j = .array (items.map .int) ∧ ∀ n ∈ items, IntegerRange.signed.Holds n
  | .other typeName, j => j.TypeNamed typeName
  | .mismatch .., _ => False

/-- What the value of a field is read from, under an annotation key and with a nested schema. -/
def FieldValue.ReadFrom (key : String) (nested : Option Schema) : FieldValue → Json → Prop
  | .leaf v, j => v.ReadFrom j
  | .record inner, j => ∃ inside, j = .object inside ∧
      inner = Schema.bind key (.object inside) (nested.getD .empty)

namespace Json

theorem asString?_eq_some_iff {j : Json} {s : String} : j.asString? = some s ↔ j = .string s := by
  cases j with
  | string t => rw [asString?, Option.some.injEq, string.injEq]
  | null | bool b | number m | array items | object members =>
      exact iff_of_false nofun nofun

/-- The integer of a number that can be kept is one of 64 bits with a sign. -/
theorem asInt?_eq_some_iff {j : Json} (hj : j.Kept) {n : Int} :
    j.asInt? = some n ↔ j = .int n ∧ IntegerRange.signed.Holds n := by
  constructor
  · intro h
    unfold asInt? at h
    split at h
    · split at h
      · next hle =>
        cases h
        cases hj with
        | number hkept => exact ⟨rfl, hkept.1, hle⟩
      · cases h
    · cases h
  · rintro ⟨rfl, hholds⟩
    exact asInt?_int hholds.2

/-- The name that is given to the type of a value is its name. -/
theorem typeNamed_typeName {j : Json} (hj : j.Kept) : j.TypeNamed j.typeName := by
  cases hj with
  | null => exact .null
  | bool b => exact .bool b
  | string s => exact .string s
  | array h => exact .array _
  | object h => exact .object _
  | @number m h =>
      cases m with
      | float negative magnitude => exact .float negative magnitude
      | int n =>
          rw [typeName]
          split
          · next hle => exact .int ⟨h.1, hle⟩
          · next hgt => exact .beyond fun hholds => hgt hholds.2

/-- A type has one name. -/
theorem TypeNamed.unique {j : Json} {name other : String} (h : j.TypeNamed name)
    (h' : j.TypeNamed other) : name = other := by
  cases h with
  | int hholds =>
      cases h' with
      | int => rfl
      | beyond hnot => exact absurd hholds hnot
  | beyond hnot =>
      cases h' with
      | int hholds => exact absurd hholds hnot
      | beyond => rfl
  | null | bool | float | string | array | object => cases h'; rfl

/-- **Types have the names that are spelled out.** -/
theorem typeNamed_iff {j : Json} (hj : j.Kept) {name : String} :
    j.TypeNamed name ↔ name = j.typeName := by
  constructor
  · intro h
    exact h.unique (typeNamed_typeName hj)
  · rintro rfl
    exact typeNamed_typeName hj

end Json

/-- Elements are read when each of them is made of what is read. -/
theorem mapM_eq_some_iff {α : Type} {read : Json → Option α} {make : α → Json} {P : α → Prop} :
    ∀ {items : List Json} {as : List α},
      (∀ item ∈ items, ∀ a, read item = some a ↔ item = make a ∧ P a) →
      (items.mapM read = some as ↔ items = as.map make ∧ ∀ a ∈ as, P a)
  | [], [], _ => ⟨fun _ => ⟨rfl, fun _ h => absurd h List.not_mem_nil⟩, fun _ => rfl⟩
  | [], _ :: _, _ => iff_of_false nofun fun h => nomatch h.1
  | item :: items, as, h => by
      obtain ⟨hitem, hitems⟩ := List.forall_mem_cons.mp h
      rw [List.mapM_cons]
      constructor
      · intro hread
        obtain ⟨a, ha, hread⟩ := Option.bind_eq_some_iff.mp hread
        obtain ⟨bs, hbs, hread⟩ := Option.bind_eq_some_iff.mp hread
        cases hread
        obtain ⟨rfl, hP⟩ := (hitem a).mp ha
        obtain ⟨rfl, hPs⟩ := (mapM_eq_some_iff hitems).mp hbs
        exact ⟨rfl, List.forall_mem_cons.mpr ⟨hP, hPs⟩⟩
      · rintro ⟨hmake, hP⟩
        cases as with
        | nil => cases hmake
        | cons a bs =>
            obtain ⟨hhead, htail⟩ := List.cons.inj hmake
            obtain ⟨ha, hbs⟩ := List.forall_mem_cons.mp hP
            rw [(hitem a).mpr ⟨hhead, ha⟩, (mapM_eq_some_iff hitems).mpr ⟨htail, hbs⟩]
            rfl

/-! ## 3. Values of the declared kind -/

/-- Strings are read from arrays of nothing but strings. -/
theorem Json.mapM_asString?_eq_some_iff {items : List Json} {ss : List String} :
    items.mapM asString? = some ss ↔ items = ss.map .string := by
  have h : ∀ item ∈ items, ∀ s, item.asString? = some s ↔ item = .string s ∧ True :=
    fun item _ s => asString?_eq_some_iff.trans (and_iff_left trivial).symm
  exact (mapM_eq_some_iff h).trans (and_iff_left fun _ _ => trivial)

/-- Integers are read from arrays of nothing but integers. -/
theorem Json.mapM_asInt?_eq_some_iff {items : List Json} (h : ∀ item ∈ items, item.Kept)
    {ns : List Int} :
    items.mapM asInt? = some ns ↔ items = ns.map .int ∧ ∀ n ∈ ns, IntegerRange.signed.Holds n :=
  mapM_eq_some_iff fun item hitem _ => asInt?_eq_some_iff (h item hitem)

/-- **A leaf is read exactly when it has the declared kind** and is read from the value. -/
theorem Leaf.ofJson?_eq_some_iff {kind : FieldKind} {j : Json} (hj : j.Kept) {v : Leaf} :
    Leaf.ofJson? kind j = some v ↔ v.kind = kind ∧ v.ReadFrom j := by
  constructor
  · intro h
    unfold Leaf.ofJson? at h
    split at h
    · obtain ⟨s, hs, rfl⟩ := Option.map_eq_some_iff.mp h
      exact ⟨rfl, Json.asString?_eq_some_iff.mp hs⟩
    · obtain ⟨n, hn, rfl⟩ := Option.map_eq_some_iff.mp h
      exact ⟨rfl, (Json.asInt?_eq_some_iff hj).mp hn⟩
    · obtain ⟨ss, hss, rfl⟩ := Option.map_eq_some_iff.mp h
      exact ⟨rfl, congrArg Json.array (Json.mapM_asString?_eq_some_iff.mp hss)⟩
    · obtain ⟨ns, hns, rfl⟩ := Option.map_eq_some_iff.mp h
      cases hj with
      | array hitems =>
          obtain ⟨rfl, hholds⟩ := (Json.mapM_asInt?_eq_some_iff hitems).mp hns
          exact ⟨rfl, rfl, hholds⟩
    · cases h
      exact ⟨rfl, Json.typeNamed_typeName hj⟩
    · cases h
  · rintro ⟨rfl, hread⟩
    cases v with
    | str s =>
        cases hread
        rfl
    | int n =>
        obtain ⟨rfl, hholds⟩ := hread
        rw [Leaf.kind, Leaf.ofJson?, asInt?_int hholds.2]
        rfl
    | strSeq items =>
        cases hread
        rw [Leaf.kind, Leaf.ofJson?, mapM_asString?]
        rfl
    | intSeq items =>
        obtain ⟨rfl, hholds⟩ := hread
        rw [Leaf.kind, Leaf.ofJson?, mapM_asInt? fun n hn => (hholds n hn).2]
        rfl
    | other typeName =>
        rw [(Json.typeNamed_iff hj).mp hread]
        rfl
    | mismatch expected actual => exact hread.elim

namespace Schema

variable (key : String) {kind : FieldKind} (nested : Option Schema)

/-- What is read from a value is bound to it under its own kind. -/
theorem bindMember_of_readFrom {j : Json} (hj : j.Kept) {v : FieldValue}
    (h : v.ReadFrom key nested j) : bindMember key v.kind nested (some j) = v := by
  cases v with
  | leaf v =>
      have hkind : v.kind ≠ .record := by
        cases v with
        | mismatch expected actual => exact h.elim
        | str s | int n | strSeq items | intSeq items | other typeName => exact nofun
      exact bindMember_leaf key hkind nested ((Leaf.ofJson?_eq_some_iff hj).mpr ⟨rfl, h⟩)
  | record inner =>
      obtain ⟨inside, rfl, rfl⟩ := h
      exact bindMember_object key inside nested

/-- A member is bound to a value of the declared kind that is read from it, or else to a mismatch
    that describes it. -/
theorem bindMember_some_cases {j : Json} (hj : j.Kept) :
    ((bindMember key kind nested (some j)).kind = kind ∧
        (bindMember key kind nested (some j)).ReadFrom key nested j) ∨
      bindMember key kind nested (some j) = .leaf (.mismatch kind j.describe) := by
  by_cases hkind : kind = .record
  · subst hkind
    cases j with
    | object inside =>
        rw [bindMember_object]
        exact Or.inl ⟨rfl, inside, rfl, rfl⟩
    | null | bool b | number m | string s | array items =>
        exact Or.inr (bindMember_not_object key nested rfl)
  · cases hleaf : Leaf.ofJson? kind j with
    | none =>
        right
        rw [bindMember, if_neg hkind, hleaf]
        rfl
    | some v =>
        left
        rw [bindMember_leaf key hkind nested hleaf]
        exact (Leaf.ofJson?_eq_some_iff hj).mp hleaf

section Members

variable {member : Option Json} (hkept : ∀ j ∈ member, j.Kept)

include hkept

/-- The value of a declared field has the declared kind. -/
theorem kind_bindMember : (bindMember key kind nested member).kind = kind := by
  cases member with
  | none => rw [bindMember]; rfl
  | some j =>
      rcases bindMember_some_cases key nested (hkept j rfl) with ⟨hkind, -⟩ | hmismatch
      · exact hkind
      · rw [hmismatch]
        rfl

/-- **Everything else is a mismatch**: a member that is missing, and one that no value of the
    declared kind is read from. -/
theorem bindMember_eq_mismatch_iff {expected : FieldKind} {actual : String} :
    bindMember key kind nested member = .leaf (.mismatch expected actual) ↔
      expected = kind ∧ (member = none ∧ actual = missingMember ∨
        ∃ j, member = some j ∧ actual = j.describe ∧
          ∀ v : FieldValue, v.kind = kind → ¬v.ReadFrom key nested j) := by
  constructor
  · intro h
    have hkind : expected = kind := by
      rw [← @kind_bindMember key kind nested member hkept, h]
      rfl
    refine ⟨hkind, ?_⟩
    cases member with
    | none =>
        rw [bindMember] at h
        cases h
        exact Or.inl ⟨rfl, rfl⟩
    | some j =>
        have hj := hkept j rfl
        rcases bindMember_some_cases key nested hj with ⟨-, hread⟩ | hmismatch
        · rw [h] at hread
          exact hread.elim
        · rw [h] at hmismatch
          cases hmismatch
          refine Or.inr ⟨j, rfl, rfl, ?_⟩
          rintro v rfl hread
          -- what is read would be bound, so it would be this mismatch, which is read from nothing
          rw [bindMember_of_readFrom key nested hj hread] at h
          rw [h] at hread
          exact hread
  · rintro ⟨rfl, ⟨rfl, rfl⟩ | ⟨j, rfl, rfl, hnone⟩⟩
    · rw [bindMember]
    · rcases bindMember_some_cases key nested (hkept j rfl) with ⟨hkind, hread⟩ | hmismatch
      · exact absurd hread (hnone _ hkind)
      · exact hmismatch

end Members

/-! ## 4. Whole objects -/

variable {members : List (String × Json)} (h : ∀ member ∈ members, member.2.Kept)

include h

end Schema

open scoped Pattern

end RecordRules
