/-!
# Tags

The tags of a field are its rules by annotation key. Keys are distinct and in ascending order by
code points, and that is part of the type, so two sets of tags with the same rules are equal.
-/

namespace RecordRules

/-- Rules by annotation key. -/
structure Tags where
  /-- The keys with their rules. -/
  entries : List (String × String)
  /-- The keys ascend. -/
  ascending : entries.Pairwise fun a b => a.1 < b.1

namespace Tags

instance : DecidableEq Tags := fun s t =>
  if h : s.entries = t.entries then isTrue (by cases s; cases t; simp_all)
  else isFalse fun e => h (e ▸ rfl)

/-- No tags. -/
def empty : Tags := ⟨[], .nil⟩

/-- The entries with one more, which takes the place of one with the same key. -/
def insertEntry (key rule : String) : List (String × String) → List (String × String)
  | [] => [(key, rule)]
  | (k, r) :: rest =>
    if key < k then (key, rule) :: (k, r) :: rest
    else if key = k then (key, rule) :: rest
    else (k, r) :: insertEntry key rule rest

theorem mem_insertEntry {key rule : String} {entries : List (String × String)}
    {e : String × String} (h : e ∈ insertEntry key rule entries) :
    e = (key, rule) ∨ e ∈ entries := by
  induction entries with
  | nil => simpa [insertEntry] using h
  | cons head rest ih =>
    obtain ⟨k, r⟩ := head
    simp only [insertEntry] at h
    split at h
    · simpa using h
    · split at h
      · rcases List.mem_cons.mp h with h | h
        · exact Or.inl h
        · exact Or.inr (List.mem_cons_of_mem _ h)
      · rcases List.mem_cons.mp h with h | h
        · exact Or.inr (h ▸ List.mem_cons_self)
        · rcases ih h with h | h
          · exact Or.inl h
          · exact Or.inr (List.mem_cons_of_mem _ h)

theorem ascending_insertEntry (key rule : String) {entries : List (String × String)}
    (h : entries.Pairwise fun a b => a.1 < b.1) :
    (insertEntry key rule entries).Pairwise fun a b => a.1 < b.1 := by
  induction entries with
  | nil => simp [insertEntry]
  | cons head rest ih =>
    obtain ⟨k, r⟩ := head
    rw [List.pairwise_cons] at h
    simp only [insertEntry]
    split
    · next hlt =>
      rw [List.pairwise_cons]
      refine ⟨fun e he => ?_, List.pairwise_cons.mpr h⟩
      rcases List.mem_cons.mp he with rfl | he
      · exact hlt
      · exact String.lt_trans hlt (h.1 e he)
    · next hnlt =>
      split
      · next heq =>
        subst heq
        exact List.pairwise_cons.mpr h
      · next hne =>
        rw [List.pairwise_cons]
        refine ⟨fun e he => ?_, ih h.2⟩
        rcases mem_insertEntry he with rfl | he
        · exact String.not_le.mp fun hle =>
            hne (String.le_antisymm hle (String.not_lt.mp hnlt))
        · exact h.1 e he

/-- The tags with one more, which takes the place of one under the same key. -/
def insert (tags : Tags) (key rule : String) : Tags :=
  ⟨insertEntry key rule tags.entries, ascending_insertEntry key rule tags.ascending⟩

/-- The rule under a key. -/
def get? (tags : Tags) (key : String) : Option String := tags.entries.lookup key

/-- Whether there are no tags. -/
def isEmpty (tags : Tags) : Bool := tags.entries.isEmpty

theorem lookup_entry (key rule other : String) (entries : List (String × String)) :
    ((key, rule) :: entries).lookup other
      = if other = key then some rule else entries.lookup other := by
  by_cases h : other = key
  · simp [h]
  · rw [List.lookup_cons, beq_eq_false_iff_ne.mpr h, if_neg h]

theorem lookup_insertEntry (key rule other : String) (entries : List (String × String)) :
    (insertEntry key rule entries).lookup other
      = if other = key then some rule else entries.lookup other := by
  induction entries with
  | nil => exact lookup_entry key rule other []
  | cons head rest ih =>
    obtain ⟨k, r⟩ := head
    rw [insertEntry, lookup_entry k r]
    split
    · rw [lookup_entry, lookup_entry]
    · split
      · next heq =>
        subst heq
        rw [lookup_entry]
        split <;> rfl
      · next hne =>
        rw [lookup_entry, ih]
        by_cases hk : other = k
        · have hkey : other ≠ key := fun e => hne (e.symm.trans hk)
          simp only [if_pos hk, if_neg hkey]
        · simp only [if_neg hk]

/-- The new tag is found under its key. -/
@[simp] theorem get?_insert_self (tags : Tags) (key rule : String) :
    (tags.insert key rule).get? key = some rule := by
  simp [get?, insert, lookup_insertEntry]

/-- The tags under other keys are left alone. -/
theorem get?_insert_of_ne (tags : Tags) {key other : String} (h : other ≠ key) (rule : String) :
    (tags.insert key rule).get? other = tags.get? other := by
  simp [get?, insert, lookup_insertEntry, h]

end Tags

end RecordRules
