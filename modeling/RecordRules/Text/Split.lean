/-!
# Splitting a text at a separator

`split sep` cuts a text at every `sep`, keeping empty parts. Its laws:

* there is one part more than there are separators (`length_split`), and no part holds one
  (`not_mem_of_mem_split`);
* joining the parts gives the text back (`intercalate_split`), and two texts joined have the parts
  of both (`split_append_sep`);
* splitting a joined list of parts without separators gives the parts back
  (`split_intercalate`).
-/

namespace RecordRules.Text

/-- The parts of a text between the separators. -/
def split (sep : Char) : List Char → List (List Char)
  | [] => [[]]
  | c :: cs => if c = sep then [] :: split sep cs else (split sep cs).modifyHead (c :: ·)

@[simp] theorem split_nil (sep : Char) : split sep [] = [[]] := rfl

theorem split_cons_self (sep : Char) (cs : List Char) :
    split sep (sep :: cs) = [] :: split sep cs := by
  simp [split]

theorem split_cons_of_ne {sep c : Char} (h : c ≠ sep) (cs : List Char) :
    split sep (c :: cs) = (split sep cs).modifyHead (c :: ·) := by
  simp [split, h]

/-- There is always a first part. -/
theorem split_ne_nil (sep : Char) (cs : List Char) : split sep cs ≠ [] := by
  induction cs with
  | nil => simp
  | cons c cs ih =>
    by_cases h : c = sep
    · subst h
      simp [split_cons_self]
    · rw [split_cons_of_ne h]
      cases hs : split sep cs with
      | nil => exact absurd hs ih
      | cons p ps => simp [List.modifyHead]

/-- There is one part more than there are separators. -/
theorem length_split (sep : Char) (cs : List Char) :
    (split sep cs).length = cs.count sep + 1 := by
  induction cs with
  | nil => rfl
  | cons c cs ih =>
    by_cases h : c = sep
    · subst h
      simp [split_cons_self, ih]
    · simp [split_cons_of_ne h, ih, h]

/-- No part holds a separator. -/
theorem not_mem_of_mem_split {sep : Char} {part cs : List Char} (h : part ∈ split sep cs) :
    sep ∉ part := by
  induction cs generalizing part with
  | nil => simp_all
  | cons c cs ih =>
    by_cases hc : c = sep
    · subst hc
      rw [split_cons_self, List.mem_cons] at h
      rcases h with rfl | h
      · simp
      · exact ih h
    · rw [split_cons_of_ne hc] at h
      cases hs : split sep cs with
      | nil => exact absurd hs (split_ne_nil sep cs)
      | cons p ps =>
        rw [hs, List.modifyHead_cons, List.mem_cons] at h
        rcases h with rfl | h
        · have hp : sep ∉ p := ih (by simp [hs])
          simp [hp, Ne.symm hc]
        · exact ih (by simp [hs, h])

/-- Joining the parts gives the text back. -/
theorem intercalate_split (sep : Char) (cs : List Char) :
    List.intercalate [sep] (split sep cs) = cs := by
  induction cs with
  | nil => rfl
  | cons c cs ih =>
    cases hs : split sep cs with
    | nil => exact absurd hs (split_ne_nil sep cs)
    | cons p ps =>
      rw [hs] at ih
      by_cases hc : c = sep
      · subst hc
        rw [split_cons_self, hs, List.intercalate_cons_cons, ih]
        rfl
      · rw [split_cons_of_ne hc, hs, List.modifyHead_cons]
        cases ps with
        | nil => simp_all [List.intercalate]
        | cons q qs =>
          rw [List.intercalate_cons_cons] at ih ⊢
          rw [List.cons_append, List.cons_append, ih]

/-- A text without the separator is one part. -/
theorem split_of_not_mem {sep : Char} {cs : List Char} (h : sep ∉ cs) : split sep cs = [cs] := by
  induction cs with
  | nil => rfl
  | cons c cs ih =>
    simp only [List.mem_cons, not_or] at h
    rw [split_cons_of_ne (Ne.symm h.1), ih h.2]
    rfl

/-- A separator is a cut, whatever stands on either side. -/
theorem split_append_sep (sep : Char) (cs ds : List Char) :
    split sep (cs ++ sep :: ds) = split sep cs ++ split sep ds := by
  induction cs with
  | nil => exact split_cons_self sep ds
  | cons c cs ih =>
    rw [List.cons_append]
    by_cases hc : c = sep
    · subst hc
      rw [split_cons_self, split_cons_self, ih, List.cons_append]
    · rw [split_cons_of_ne hc, split_cons_of_ne hc, ih]
      cases hs : split sep cs with
      | nil => exact absurd hs (split_ne_nil sep cs)
      | cons p ps => rfl

/-- The part before the first separator is split off. -/
theorem split_append {sep : Char} {part : List Char} (h : sep ∉ part) (cs : List Char) :
    split sep (part ++ sep :: cs) = part :: split sep cs := by
  rw [split_append_sep, split_of_not_mem h, List.singleton_append]

/-- **Splitting undoes joining**, as long as no part holds the separator. -/
theorem split_intercalate {sep : Char} {parts : List (List Char)} (hne : parts ≠ [])
    (h : ∀ part ∈ parts, sep ∉ part) : split sep (List.intercalate [sep] parts) = parts := by
  induction parts with
  | nil => exact absurd rfl hne
  | cons p ps ih =>
    cases ps with
    | nil =>
      rw [List.intercalate_singleton]
      exact split_of_not_mem (h p (by simp))
    | cons q qs =>
      rw [List.intercalate_cons_cons, List.append_assoc, List.singleton_append,
        split_append (h p (by simp)), ih (by simp) fun r hr => h r (List.mem_cons_of_mem _ hr)]

end RecordRules.Text
