import Mathlib.Data.List.Infix
import RecordRules.Report
import RecordRules.Text.Split

/-!
# Reports told apart by their texts

The text of a report puts a separator between the texts of its violations, and nothing is escaped:
a name of a field may end in half a separator, start with the other half, or read like a violation.
Still the violations can be told from the text, as long as no name holds the whole separator.

* `Text.Separable` says that the separator behind a part is the first one in the text;
  **`Text.intercalate_inj`**: separable parts are told from the text that joins them;
* **`Violation.display_injective`**: no description holds a colon, so that the last colon in the
  text of a violation ends the name;
* `Violation.separable_display_iff`: the separator of `display` tells violations apart exactly when
  it is in none of the names;
* `Report.render_merge`: what is merged is rendered one behind the other;
* `Report.exists_ne_render_eq`: with any names allowed, a report of two violations or more always
  shares its text with another one, whatever the separator.

**`reports_told_apart`** puts them together.
-/

namespace RecordRules

/-! ## 1. Separators of several characters -/

namespace Text

variable {sep part other more text rest front back : List Char} {c : Char}

/-- The separator behind the part is the first one in the text. -/
structure Separable (sep part : List Char) : Prop where
  /-- The part can be seen. -/
  ne_nil : part ≠ []
  /-- No separator starts in the part, even if it ends in the one behind the part. -/
  first : ¬ sep <:+: part ++ sep.dropLast

namespace Separable

theorem not_infix (h : Separable sep part) : ¬ sep <:+: part := by
  intro hin
  exact h.first (hin.trans (List.prefix_append part sep.dropLast).isInfix)

/-- A separable part is not a text with a separator in it. -/
theorem ne_append (h : Separable sep part) : part ≠ front ++ sep ++ back := by
  intro e
  have hin : sep <:+: part := by
    rw [e]
    exact List.infix_append front sep back
  exact h.not_infix hin

/-- A separable part does not end behind the first separator. -/
theorem eq_nil_of_append (h : Separable sep (part ++ more))
    (heq : sep ++ text = more ++ (sep ++ rest)) : more = [] := by
  by_contra hmore
  have hpos : 0 < more.length := List.length_pos_of_ne_nil hmore
  have hbehind : more ++ sep.dropLast <+: sep ++ text := by
    rw [heq, List.prefix_append_right_inj]
    exact (List.dropLast_prefix sep).trans (List.prefix_append sep rest)
  have hlead : sep <+: more ++ sep.dropLast := by
    refine List.prefix_of_prefix_length_le (List.prefix_append sep text) hbehind ?_
    rw [List.length_append, List.length_dropLast]
    omega
  refine h.first ?_
  rw [List.append_assoc]
  exact hlead.isInfix.trans (List.suffix_append part _).isInfix

/-- A text is cut at its first separator in one way only. -/
theorem append_inj (hpart : Separable sep part) (hother : Separable sep other)
    (h : part ++ (sep ++ text) = other ++ (sep ++ rest)) : part = other ∧ text = rest := by
  rcases List.append_eq_append_iff.mp h with ⟨more, rfl, heq⟩ | ⟨more, rfl, heq⟩
  · obtain rfl := hother.eq_nil_of_append heq
    simpa using heq
  · obtain rfl := hpart.eq_nil_of_append heq
    simpa using heq.symm

/-- Something is written for separable parts. -/
theorem intercalate_ne_nil (hpart : Separable sep part) (parts : List (List Char)) :
    List.intercalate sep (part :: parts) ≠ [] := by
  cases parts with
  | nil =>
      rw [List.intercalate_singleton]
      exact hpart.ne_nil
  | cons p ps =>
      rw [List.intercalate_cons_cons, List.append_assoc]
      exact List.append_ne_nil_of_left_ne_nil hpart.ne_nil _

/-- The first of the joined parts ends at the first separator, and at the end of the text when
    there is none. -/
theorem intercalate_cons_inj {parts others : List (List Char)} (hpart : Separable sep part)
    (hother : Separable sep other)
    (h : List.intercalate sep (part :: parts) = List.intercalate sep (other :: others)) :
    part = other ∧ List.intercalate sep parts = List.intercalate sep others := by
  cases parts with
  | nil =>
      rw [List.intercalate_singleton] at h
      cases others with
      | nil => exact ⟨by rwa [List.intercalate_singleton] at h, rfl⟩
      | cons o os =>
          rw [List.intercalate_cons_cons] at h
          exact absurd h hpart.ne_append
  | cons p ps =>
      rw [List.intercalate_cons_cons] at h
      cases others with
      | nil =>
          rw [List.intercalate_singleton] at h
          exact absurd h.symm hother.ne_append
      | cons o os =>
          rw [List.intercalate_cons_cons, List.append_assoc, List.append_assoc] at h
          exact hpart.append_inj hother h

end Separable

/-- **Separable parts are told from the text that joins them.** -/
theorem intercalate_inj {parts others : List (List Char)}
    (hparts : ∀ part ∈ parts, Separable sep part) (hothers : ∀ part ∈ others, Separable sep part)
    (h : List.intercalate sep parts = List.intercalate sep others) : parts = others := by
  induction parts generalizing others with
  | nil =>
      cases others with
      | nil => rfl
      | cons o os => exact absurd h.symm ((hothers o List.mem_cons_self).intercalate_ne_nil os)
  | cons p ps ih =>
      obtain ⟨hp, hps⟩ := List.forall_mem_cons.mp hparts
      cases others with
      | nil => exact absurd h (hp.intercalate_ne_nil ps)
      | cons o os =>
          obtain ⟨ho, hos⟩ := List.forall_mem_cons.mp hothers
          obtain ⟨rfl, hrest⟩ := hp.intercalate_cons_inj ho h
          rw [ih hps hos hrest]

theorem eq_nil_of_prefix_cons (h : c ∉ part) (hlead : part <+: c :: back) : part = [] := by
  cases part with
  | nil => rfl
  | cons d ds =>
      obtain ⟨rfl, -⟩ := List.cons_prefix_cons.mp hlead
      exact absurd List.mem_cons_self h

/-- What does not hold a character stands on one side of it. -/
theorem infix_append_cons_iff (h : c ∉ part) :
    part <:+: front ++ c :: back ↔ part <:+: front ∨ part <:+: back := by
  rw [List.infix_append_iff, List.infix_cons_iff]
  constructor
  · intro hin
    rcases hin with hfront | hbehind | ⟨before, behind, rfl, hbefore, hbehind⟩
    · exact Or.inl hfront
    · rcases hbehind with hstart | hback
      · rw [eq_nil_of_prefix_cons h hstart]
        exact Or.inl List.nil_infix
      · exact Or.inr hback
    · have hnot : c ∉ behind := fun hc => h (List.mem_append_right before hc)
      rw [eq_nil_of_prefix_cons hnot hbehind, List.append_nil]
      exact Or.inl hbefore.isInfix
  · intro hin
    rcases hin with hfront | hback
    · exact Or.inl hfront
    · exact Or.inr (Or.inl (Or.inr hback))

/-- A separator does not start where its first character is missing. -/
theorem not_infix_append_dropLast (h : c ∉ part) : ¬ c :: sep <:+: part ++ (c :: sep).dropLast := by
  induction part with
  | nil =>
      intro hin
      have hlength := hin.length_le
      simp only [List.nil_append, List.length_dropLast, List.length_cons] at hlength
      omega
  | cons d ds ih =>
      have hne : c ≠ d := List.ne_of_not_mem_cons h
      have hds : c ∉ ds := List.not_mem_of_not_mem_cons h
      intro hin
      rcases List.infix_cons_iff.mp hin with hlead | hinside
      · exact hne (List.cons_prefix_cons.mp hlead).1
      · exact ih hds hinside

/-- A text is cut at the last of a character in one way only. -/
theorem append_cons_inj (hback : c ∉ back) (hrest : c ∉ rest)
    (h : front ++ c :: back = text ++ c :: rest) : front = text ∧ back = rest := by
  have hsplit : split c front ++ [back] = split c text ++ [rest] := by
    rw [← split_of_not_mem hback, ← split_of_not_mem hrest, ← split_append_sep,
      ← split_append_sep, h]
  obtain ⟨hparts, hlast⟩ := List.append_inj' hsplit rfl
  have hfront : front = text := by
    rw [← intercalate_split c front, hparts, intercalate_split]
  exact ⟨hfront, List.singleton_inj.mp hlast⟩

end Text

/-! ## 2. Violations -/

namespace ViolationKind

/-- No description holds a colon or a semicolon. -/
theorem not_mem_description (kind : ViolationKind) :
    ':' ∉ kind.description.toList ∧ ';' ∉ kind.description.toList := by
  cases kind <;> decide

theorem description_injective : Function.Injective description := by
  intro kind other h
  cases kind <;> cases other <;> first | rfl | exact absurd h (by decide)

end ViolationKind

namespace Violation

theorem toList_display (v : Violation) :
    v.display.toList = v.field.toList ++ ':' :: ' ' :: v.kind.description.toList := by
  simp [display]

/-- **Violations are told apart by their texts**, whatever the names of the fields. -/
theorem display_injective : Function.Injective display := by
  intro v w h
  have hcolon (k : ViolationKind) : ':' ∉ ' ' :: k.description.toList := by
    simp [k.not_mem_description.1]
  have htexts := String.toList_inj.mpr h
  rw [toList_display, toList_display] at htexts
  obtain ⟨hfields, hrests⟩ := Text.append_cons_inj (hcolon v.kind) (hcolon w.kind) htexts
  have hfield : v.field = w.field := String.toList_inj.mp hfields
  have hdescription : v.kind.description = w.kind.description :=
    String.toList_inj.mp (List.cons.inj hrests).2
  have hkind : v.kind = w.kind := ViolationKind.description_injective hdescription
  show Violation.mk v.field v.kind = Violation.mk w.field w.kind
  rw [hfield, hkind]

/-- The separator of `display` tells the violation from what follows exactly when it is not in the
    name of the field. -/
theorem separable_display_iff (v : Violation) :
    Text.Separable Report.separator.toList v.display.toList ↔
      ¬ Report.separator.toList <:+: v.field.toList := by
  show Text.Separable [';', ' '] v.display.toList ↔ ¬ [';', ' '] <:+: v.field.toList
  rw [toList_display]
  constructor
  · intro h hfield
    exact h.not_infix (hfield.trans (List.prefix_append v.field.toList _).isInfix)
  · intro h
    have hcolon : ':' ∉ [';', ' '] := by decide
    have hstart : ';' ∉ ' ' :: v.kind.description.toList := by
      simp [v.kind.not_mem_description.2]
    refine ⟨by simp, ?_⟩
    -- the name ends at a colon, so a separator stands in front of it or behind it
    rw [List.append_assoc, List.cons_append, Text.infix_append_cons_iff hcolon]
    intro hin
    rcases hin with hfield | hbehind
    · exact h hfield
    · exact Text.not_infix_append_dropLast hstart hbehind

end Violation

/-! ## 3. Reports -/

namespace Report

variable {a b : Report}

/-- Reports are told apart by a separator that tells their violations apart. -/
theorem render_inj {sep : String}
    (ha : ∀ v ∈ a.violations, Text.Separable sep.toList v.display.toList)
    (hb : ∀ v ∈ b.violations, Text.Separable sep.toList v.display.toList)
    (h : a.render sep = b.render sep) : a = b := by
  have htexts := String.toList_inj.mpr h
  rw [render, render, String.toList_intercalate, String.toList_intercalate, List.map_map,
    List.map_map] at htexts
  have hmap := Text.intercalate_inj (List.forall_mem_map.mpr ha) (List.forall_mem_map.mpr hb) htexts
  have hinjective : Function.Injective (String.toList ∘ Violation.display) :=
    Function.Injective.comp (fun _ _ => String.toList_inj.mp) Violation.display_injective
  exact congrArg mk (List.map_injective_iff.mpr hinjective hmap)

/-- The separator of `display` is not in the names of the fields. -/
def NamesApart (r : Report) : Prop :=
  ∀ v ∈ r.violations, ¬ separator.toList <:+: v.field.toList

instance (r : Report) : Decidable r.NamesApart :=
  inferInstanceAs (Decidable (∀ v ∈ r.violations, ¬ separator.toList <:+: v.field.toList))

/-- **Reports are told apart by their texts** when no name holds the separator. -/
theorem display_inj (ha : a.NamesApart) (hb : b.NamesApart) : a.display = b.display ↔ a = b := by
  constructor
  · refine render_inj ?_ ?_
    · exact fun v hv => v.separable_display_iff.mpr (ha v hv)
    · exact fun v hv => v.separable_display_iff.mpr (hb v hv)
  · exact congrArg display

theorem texts_ne_nil (h : a ≠ .empty) : a.violations.map Violation.display ≠ [] := by
  intro hnil
  exact h (congrArg mk (List.map_eq_nil_iff.mp hnil))

/-- **What is merged is rendered one behind the other**, with the separator in between. -/
theorem render_merge (sep : String) (ha : a ≠ .empty) (hb : b ≠ .empty) :
    (a.merge b).render sep = a.render sep ++ sep ++ b.render sep := by
  rw [render, violations_merge, List.map_append,
    String.intercalate_append_of_ne_nil (texts_ne_nil ha) (texts_ne_nil hb)]
  rfl

/-- **A report of two violations shares its text with another one**: the first violation and the
    separator may as well be the start of the name in the second. -/
theorem exists_ne_render_eq (sep : String) (h : 2 ≤ a.length) :
    ∃ b : Report, b ≠ a ∧ b.render sep = a.render sep := by
  match a, h with
  | ⟨v :: w :: vs⟩, _ =>
      let fused : Violation := ⟨v.display ++ sep ++ w.field, w.kind⟩
      have hfused : fused.display = v.display ++ sep ++ w.display := by
        simp [fused, Violation.display, String.append_assoc]
      refine ⟨⟨fused :: vs⟩, ?_, ?_⟩
      · intro e
        have hlength : vs.length + 1 = vs.length + 2 := congrArg length e
        omega
      · show sep.intercalate (fused.display :: vs.map Violation.display)
          = sep.intercalate (v.display :: w.display :: vs.map Violation.display)
        rw [hfused, String.intercalate_cons_append, String.intercalate_cons_cons]

/-- A name that holds the text of a whole violation and the separator. -/
example : display ⟨[⟨"a", .intMin⟩, ⟨"b", .strLen⟩]⟩
    = display ⟨[⟨"a: value is less than the minimum; b", .strLen⟩]⟩ := by decide

end Report

/-- **Reports are told apart by their texts.** Two reports whose names do not hold the separator
    have the same text only when they are equal. What is merged is rendered one behind the other,
    with the separator in between; when one report is empty there is just the other one, and the
    empty report has the empty text. -/
theorem reports_told_apart :
    (∀ a b : Report, a.NamesApart → b.NamesApart → (a.display = b.display ↔ a = b)) ∧
    (∀ (sep : String) (a b : Report),
      (a ≠ .empty → b ≠ .empty → (a.merge b).render sep = a.render sep ++ sep ++ b.render sep) ∧
      (a.merge .empty).render sep = a.render sep ∧
      (Report.empty.merge b).render sep = b.render sep ∧
      Report.empty.render sep = "") := by
  refine ⟨fun a b => Report.display_inj, fun sep a b => ⟨Report.render_merge sep, ?_, ?_, ?_⟩⟩
  · rw [Report.merge_empty]
  · rw [Report.empty_merge]
  · exact Report.render_empty sep

/-- Names that end in half a separator, are a blank, or are empty. -/
def halvedNames : Report := ⟨[⟨"a;", .intMin⟩, ⟨" ", .intMin⟩, ⟨"", .strLen⟩]⟩

/-- A name that reads like the first violation of `halvedNames` with half a separator. -/
def imitatedName : Report := ⟨[⟨"a;: value is less than the minimum;", .intMin⟩, ⟨"", .strLen⟩]⟩

/-- Half a separator at the end of a name, and a blank at the start of the next, mislead nobody. -/
theorem reports_told_apart_halvedNames :
    halvedNames.NamesApart ∧ imitatedName.NamesApart ∧
      halvedNames ≠ .empty ∧ imitatedName ≠ .empty ∧
      halvedNames.display ≠ imitatedName.display ∧
      (halvedNames.merge imitatedName).render ";"
        = halvedNames.render ";" ++ ";" ++ imitatedName.render ";" := by
  have hhalved : halvedNames.NamesApart := by decide
  have himitated : imitatedName.NamesApart := by decide
  have hne : halvedNames ≠ imitatedName := by decide
  obtain ⟨happart, hmerge⟩ := reports_told_apart
  have hsome : halvedNames ≠ .empty ∧ imitatedName ≠ .empty := by decide
  exact ⟨hhalved, himitated, hsome.1, hsome.2,
    fun heq => hne ((happart _ _ hhalved himitated).mp heq),
    (hmerge ";" halvedNames imitatedName).1 hsome.1 hsome.2⟩

end RecordRules
