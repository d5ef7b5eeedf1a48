import RecordRules.Proofs.Schema.Typing

/-!
# What mismatches say of values

A mismatch tells what a value is instead of the declared kind. An array is told by its elements:
strings and integers of 64 bits with a sign (`Json.IsText`, `Json.IsInteger`) are those that
sequences have, every other one is foreign, and the first foreign one (`Json.FirstForeign`) decides
by the name of its type (`Json.TypeNamed`).

* `Json.find?_foreign_eq_some_iff`, `Json.find?_foreign_eq_none_iff`: the search for a foreign
  element finds the first one;
* `Json.describe_of_foreign`, `Json.describe_of_native`: the two forms of a description;
* `ArrayTold` reads the elements off the words, and `arrayTold_describe` says that they are right.

**`mismatches_describe_members`** says it of declared fields. An array without elements is told as
one of integers (`empty_array_told_as_integers`).
-/

namespace RecordRules

namespace Json

/-! ## 1. Elements -/

/-- The value is a string. -/
def IsText (j : Json) : Prop := ∃ s, j = .string s

/-- The value is an integer of 64 bits with a sign. -/
def IsInteger (j : Json) : Prop := ∃ n, j = .int n ∧ IntegerRange.signed.Holds n

/-- The value is one that sequences have. -/
def IsNative (j : Json) : Prop := j.IsText ∨ j.IsInteger

/-- An element is the first one that is foreign to sequences. -/
def FirstForeign (items : List Json) (item : Json) : Prop :=
  ∃ front back, items = front ++ item :: back ∧ (∀ x ∈ front, x.IsNative) ∧ ¬item.IsNative

theorem isString_iff {j : Json} : j.isString = true ↔ j.IsText := by
  rw [isString, Option.isSome_iff_exists]
  exact exists_congr fun s => asString?_eq_some_iff

theorem isInt_iff {j : Json} (hj : j.Kept) : j.isInt = true ↔ j.IsInteger := by
  rw [isInt, Option.isSome_iff_exists]
  exact exists_congr fun n => asInt?_eq_some_iff hj

/-- Nothing is a string and an integer. -/
theorem IsText.not_isInteger {j : Json} (h : j.IsText) : ¬j.IsInteger := by
  obtain ⟨s, rfl⟩ := h
  rintro ⟨n, hn, -⟩
  cases hn

theorem foreign_iff {j : Json} (hj : j.Kept) :
    (!j.isString && !j.isInt) = true ↔ ¬j.IsNative := by
  rw [IsNative, ← isString_iff, ← isInt_iff hj]
  cases j.isString <;> cases j.isInt <;> decide

/-! ## 2. Descriptions of arrays -/

section Arrays

variable {items : List Json}

theorem FirstForeign.mem {item : Json} (hforeign : FirstForeign items item) : item ∈ items := by
  obtain ⟨front, back, rfl, -⟩ := hforeign
  exact List.mem_append_right front List.mem_cons_self

/-- Behind a first foreign element not all elements are native. -/
theorem FirstForeign.not_native {item : Json} (hforeign : FirstForeign items item) :
    ¬∀ x ∈ items, x.IsNative := by
  intro hall
  have hnative := hall item hforeign.mem
  obtain ⟨front, back, -, -, hitem⟩ := hforeign
  exact hitem hnative

theorem any_isString_iff : items.any isString = true ↔ ∃ item ∈ items, item.IsText := by
  simp only [List.any_eq_true, isString_iff]

variable (h : ∀ item ∈ items, item.Kept)

include h

theorem any_isInt_iff : items.any isInt = true ↔ ∃ item ∈ items, item.IsInteger := by
  rw [List.any_eq_true]
  exact exists_congr fun item => and_congr_right fun hitem => isInt_iff (h item hitem)

/-- The first foreign element is what the search finds. -/
theorem find?_foreign_eq_some_iff {item : Json} :
    items.find? (fun item => !item.isString && !item.isInt) = some item ↔
      FirstForeign items item := by
  rw [List.find?_eq_some_iff_append]
  constructor
  · rintro ⟨hitem, front, back, rfl, hfront⟩
    obtain ⟨hkfront, hkback⟩ := List.forall_mem_append.mp h
    refine ⟨front, back, rfl, fun x hx => ?_,
      (foreign_iff (hkback item List.mem_cons_self)).mp hitem⟩
    by_contra hforeign
    have hx' := hfront x hx
    rw [(foreign_iff (hkfront x hx)).mpr hforeign] at hx'
    exact absurd hx' (by decide)
  · rintro ⟨front, back, rfl, hfront, hitem⟩
    obtain ⟨hkfront, hkback⟩ := List.forall_mem_append.mp h
    refine ⟨(foreign_iff (hkback item List.mem_cons_self)).mpr hitem, front, back, rfl,
      fun x hx => ?_⟩
    rw [Bool.not_eq_true', ← Bool.not_eq_true]
    exact fun hforeign => (foreign_iff (hkfront x hx)).mp hforeign (hfront x hx)

/-- The search finds nothing when all elements are native. -/
theorem find?_foreign_eq_none_iff :
    items.find? (fun item => !item.isString && !item.isInt) = none ↔
      ∀ item ∈ items, item.IsNative := by
  rw [List.find?_eq_none]
  exact forall₂_congr fun item hitem =>
    (not_congr (foreign_iff (h item hitem))).trans Classical.not_not

/-- There is one first foreign element at most. -/
theorem FirstForeign.unique {item other : Json} (hitem : FirstForeign items item)
    (hother : FirstForeign items other) : item = other := by
  have hfind := (find?_foreign_eq_some_iff h).mpr hitem
  rw [(find?_foreign_eq_some_iff h).mpr hother] at hfind
  exact (Option.some.inj hfind).symm

/-- Either all elements are native, or one of them is the first that is foreign. -/
theorem native_or_firstForeign :
    (∀ item ∈ items, item.IsNative) ∨ ∃ item, FirstForeign items item := by
  cases hfind : items.find? fun item => !item.isString && !item.isInt with
  | none => exact Or.inl ((find?_foreign_eq_none_iff h).mp hfind)
  | some item => exact Or.inr ⟨item, (find?_foreign_eq_some_iff h).mp hfind⟩

theorem describe_of_foreign {item : Json} (hforeign : FirstForeign items item) :
    describe (.array items) = "array containing " ++ item.typeName := by
  rw [describe, (find?_foreign_eq_some_iff h).mpr hforeign]

/-- The words for an array of native elements. -/
theorem describe_of_native (hnative : ∀ item ∈ items, item.IsNative) :
    (describe (.array items) = "array of mixed elements" ∧
      (∃ item ∈ items, item.IsText) ∧ ∃ item ∈ items, item.IsInteger) ∨
    (describe (.array items) = "array of string" ∧ items ≠ [] ∧ ∀ item ∈ items, item.IsText) ∨
    (describe (.array items) = "array of int" ∧ ∀ item ∈ items, item.IsInteger) := by
  rw [describe, (find?_foreign_eq_none_iff h).mpr hnative]
  dsimp only
  by_cases htext : ∃ item ∈ items, item.IsText
  · rw [any_isString_iff.mpr htext]
    by_cases hinteger : ∃ item ∈ items, item.IsInteger
    · rw [(any_isInt_iff h).mpr hinteger]
      exact Or.inl ⟨rfl, htext, hinteger⟩
    · rw [Bool.eq_false_iff.mpr fun hany => hinteger ((any_isInt_iff h).mp hany)]
      obtain ⟨item, hitem, -⟩ := htext
      refine Or.inr (Or.inl ⟨rfl, List.ne_nil_of_mem hitem, fun x hx => ?_⟩)
      exact (hnative x hx).resolve_right fun hint => hinteger ⟨x, hx, hint⟩
  · rw [Bool.eq_false_iff.mpr fun hany => htext (any_isString_iff.mp hany)]
    refine Or.inr (Or.inr ⟨rfl, fun x hx => ?_⟩)
    exact (hnative x hx).resolve_left fun hstring => htext ⟨x, hx, hstring⟩

end Arrays

/-- The words for a foreign element are no others. -/
theorem containing_ne {type s : String} (h : ¬"array containing ".toList <+: s.toList) :
    "array containing " ++ type ≠ s := by
  rintro rfl
  rw [String.toList_append] at h
  exact h (List.prefix_append _ _)

end Json

/-- What the words for an array say of its elements. -/
structure ArrayTold (items : List Json) (told : String) : Prop where
  /-- There is a foreign element, and the first one has a type of this name. -/
  containing_iff : ∀ type, told = "array containing " ++ type ↔
    ∃ item, Json.FirstForeign items item ∧ item.TypeNamed type
  /-- All elements are strings or integers, and there are both. -/
  mixed_iff : told = "array of mixed elements" ↔ (∀ item ∈ items, item.IsNative) ∧
    (∃ item ∈ items, item.IsText) ∧ ∃ item ∈ items, item.IsInteger
  /-- There are elements, and all are strings. -/
  texts_iff : told = "array of string" ↔ items ≠ [] ∧ ∀ item ∈ items, item.IsText
  /-- All elements are integers, which is true where there are none. -/
  integers_iff : told = "array of int" ↔ ∀ item ∈ items, item.IsInteger

section Told

variable {items : List Json} (h : ∀ item ∈ items, item.Kept)

include h

/-- The words for a foreign element are right. -/
theorem arrayTold_of_foreign {item : Json} (hfirst : Json.FirstForeign items item) :
    ArrayTold items (Json.describe (.array items)) := by
  have hnative : ¬∀ x ∈ items, x.IsNative := hfirst.not_native
  rw [Json.describe_of_foreign h hfirst]
  constructor
  · intro type
    rw [String.append_right_inj]
    constructor
    · rintro rfl
      exact ⟨item, hfirst, Json.typeNamed_typeName (h item hfirst.mem)⟩
    · rintro ⟨other, hother, htype⟩
      rw [hfirst.unique h hother]
      exact ((Json.typeNamed_iff (h other hother.mem)).mp htype).symm
  · exact iff_of_false (Json.containing_ne (by decide)) fun hall => hnative hall.1
  · exact iff_of_false (Json.containing_ne (by decide)) fun hall =>
      hnative fun x hx => Or.inl (hall.2 x hx)
  · exact iff_of_false (Json.containing_ne (by decide)) fun hall =>
      hnative fun x hx => Or.inr (hall x hx)

/-- The words for native elements are right. -/
theorem arrayTold_of_native (hnative : ∀ item ∈ items, item.IsNative) :
    ArrayTold items (Json.describe (.array items)) := by
  have hcontaining {s : String} (hs : ¬"array containing ".toList <+: s.toList) (type : String) :
      s = "array containing " ++ type ↔
        ∃ item, Json.FirstForeign items item ∧ item.TypeNamed type :=
    iff_of_false (Json.containing_ne hs).symm fun ⟨_, hfirst, _⟩ => hfirst.not_native hnative
  obtain ⟨heq, htext, hinteger⟩ | ⟨heq, hne, htext⟩ | ⟨heq, hinteger⟩ :=
    Json.describe_of_native h hnative
  · -- there are both, so neither all are strings nor all are integers
    rw [heq]
    obtain ⟨x, hx, hxtext⟩ := htext
    obtain ⟨y, hy, hyinteger⟩ := hinteger
    constructor
    · exact hcontaining (by decide)
    · exact iff_of_true rfl ⟨hnative, ⟨x, hx, hxtext⟩, y, hy, hyinteger⟩
    · exact iff_of_false (by decide) fun hall => (hall.2 y hy).not_isInteger hyinteger
    · exact iff_of_false (by decide) fun hall => hxtext.not_isInteger (hall x hx)
  · rw [heq]
    obtain ⟨x, hx⟩ := List.exists_mem_of_ne_nil items hne
    constructor
    · exact hcontaining (by decide)
    · exact iff_of_false (by decide) fun ⟨_, _, y, hy, hyinteger⟩ =>
        (htext y hy).not_isInteger hyinteger
    · exact iff_of_true rfl ⟨hne, htext⟩
    · exact iff_of_false (by decide) fun hall => (htext x hx).not_isInteger (hall x hx)
  · rw [heq]
    constructor
    · exact hcontaining (by decide)
    · exact iff_of_false (by decide) fun ⟨_, ⟨x, hx, hxtext⟩, _⟩ =>
        hxtext.not_isInteger (hinteger x hx)
    · refine iff_of_false (by decide) ?_
      rintro ⟨hne, htext⟩
      obtain ⟨x, hx⟩ := List.exists_mem_of_ne_nil items hne
      exact (htext x hx).not_isInteger (hinteger x hx)
    · exact iff_of_true rfl hinteger

/-- **The words for an array say what its elements are.** -/
theorem arrayTold_describe : ArrayTold items (Json.describe (.array items)) := by
  rcases Json.native_or_firstForeign h with hnative | ⟨item, hfirst⟩
  · exact arrayTold_of_native h hnative
  · exact arrayTold_of_foreign h hfirst

end Told

/-! ## 3. Declared fields -/

/-- **A mismatch tells the truth about the member.** It expects the declared kind. A member that is
    no array is told by the name of its type, and an array by its elements; one without elements
    counts as one of integers. -/
theorem mismatches_describe_members (key : String) {kind : FieldKind} (nested : Option Schema)
    {j : Json} (hj : j.Kept) {expected : FieldKind} {actual : String}
    (h : Schema.bindMember key kind nested (some j) = .leaf (.mismatch expected actual)) :
    expected = kind ∧
    (∀ items, j = .array items → ArrayTold items actual) ∧
    ((∀ items, j ≠ .array items) → j.TypeNamed actual) := by
  have hkept : ∀ value ∈ some j, value.Kept := fun value hvalue => by
    cases hvalue
    exact hj
  obtain ⟨hexpected, ⟨hnone, -⟩ | ⟨value, hvalue, rfl, -⟩⟩ :=
    (Schema.bindMember_eq_mismatch_iff key nested hkept).mp h
  · cases hnone
  · cases hvalue
    refine ⟨hexpected, ?_, fun hj' => ?_⟩
    · rintro items rfl
      cases hj with
      | array hitems => exact arrayTold_describe hitems
    · refine (Json.typeNamed_iff hj).mpr ?_
      cases j with
      | array items => exact absurd rfl (hj' items)
      | null | bool b | number m | string s | object members => rfl

/-- The first element is a string, so the second one is told. -/
theorem mismatches_describe_members_null :
    (Json.array [.string "ab", .null]).Kept ∧
    Schema.bindMember "validate" .stringSeq none (some (.array [.string "ab", .null]))
      = .leaf (.mismatch .stringSeq "array containing null") ∧
    ∃ item, Json.FirstForeign [.string "ab", .null] item ∧ item.TypeNamed "null" := by
  have hkept : (Json.array [.string "ab", .null]).Kept :=
    .array (List.forall_mem_cons.mpr ⟨.string "ab", List.forall_mem_singleton.mpr .null⟩)
  have hbind : Schema.bindMember "validate" .stringSeq none (some (.array [.string "ab", .null]))
      = .leaf (.mismatch .stringSeq "array containing null") := by
    rw [Schema.bindMember, if_neg (by decide)]
    rfl
  obtain ⟨-, harray, -⟩ := mismatches_describe_members "validate" none hkept hbind
  exact ⟨hkept, hbind, ((harray _ rfl).containing_iff "null").mp rfl⟩

/-- **An array that is told as one of integers need not have any.** -/
theorem empty_array_told_as_integers :
    ¬∀ (key : String) (kind expected : FieldKind) (nested : Option Schema) (items : List Json),
      Schema.bindMember key kind nested (some (.array items))
          = .leaf (.mismatch expected "array of int") →
        items ≠ [] ∧ ∀ item ∈ items, item.IsInteger := by
  intro h
  have hbind : Schema.bindMember "validate" .string none (some (.array []))
      = .leaf (.mismatch .string "array of int") := by
    rw [Schema.bindMember, if_neg (by decide)]
    rfl
  exact (h "validate" .string .string none [] hbind).1 rfl

end RecordRules
