import RecordRules.Pattern.Reader
import RecordRules.Proofs.Families
import RecordRules.Proofs.Rule.Spelling
import RecordRules.Proofs.Walk

/-!
# Allowed strings

The operand of `in` is a list of allowed strings with commas between them, and nothing is escaped.
So a string is allowed when it holds no comma and stands in the list between two commas, where the
list as a whole is put between two commas first.

* `Text.mem_split_iff`: the parts of a text are what stands between separators in it, and
  `Text.nil_mem_split_iff` says it of the empty part;
* `Condition.mem_members_iff`: the same of the members of an operand;
* `StringConstraint.strIn_iff`: under plain conditions a string with a separator in it violates the
  constraints of `in`, and these alone say so.

**`allowed_strings_bracketed`** puts them together.
-/

namespace RecordRules

/-! ## 1. Parts between separators -/

namespace Text

variable {sep : Char} {part text : List Char}

/-- Joined parts may be cut anywhere. -/
theorem intercalate_append {front back : List (List Char)} (hfront : front ≠ [])
    (hback : back ≠ []) :
    List.intercalate [sep] (front ++ back)
      = List.intercalate [sep] front ++ sep :: List.intercalate [sep] back := by
  induction front with
  | nil => exact absurd rfl hfront
  | cons p ps ih =>
      cases ps with
      | nil =>
          rw [List.singleton_append, List.intercalate_cons_of_ne_nil hback,
            List.intercalate_singleton, List.append_assoc, List.singleton_append]
      | cons q qs =>
          have hne : (q :: qs) ++ back ≠ [] := List.append_ne_nil_of_right_ne_nil _ hback
          rw [List.cons_append, List.intercalate_cons_of_ne_nil hne, ih (List.cons_ne_nil q qs),
            List.intercalate_cons_cons, List.append_assoc, List.append_assoc, List.append_assoc]

/-- A text between two separators has an empty part more on either side. -/
theorem split_bracketed (sep : Char) (text : List Char) :
    split sep (sep :: text ++ [sep]) = [] :: split sep text ++ [[]] := by
  rw [List.cons_append, split_cons_self, split_append_sep, split_nil, List.cons_append]

/-- **The parts of a text are what stands between separators in it.** -/
theorem mem_split_iff :
    part ∈ split sep text ↔ sep ∉ part ∧ sep :: part ++ [sep] <:+: sep :: text ++ [sep] := by
  constructor
  · intro h
    refine ⟨not_mem_of_mem_split h, ?_⟩
    obtain ⟨front, back, hparts⟩ := List.append_of_mem h
    have hsplit : split sep (sep :: text ++ [sep])
        = ([] :: front) ++ ([part] ++ (back ++ [[]])) := by
      rw [split_bracketed, hparts]
      simp
    have htext : sep :: text ++ [sep]
        = List.intercalate [sep] ([] :: front)
          ++ sep :: (part ++ sep :: List.intercalate [sep] (back ++ [[]])) := by
      rw [← intercalate_split sep (sep :: text ++ [sep]), hsplit,
        intercalate_append (by simp) (by simp), intercalate_append (by simp) (by simp),
        List.intercalate_singleton]
    refine ⟨List.intercalate [sep] ([] :: front), List.intercalate [sep] (back ++ [[]]), ?_⟩
    rw [htext]
    simp
  · rintro ⟨hsep, before, behind, h⟩
    have hsplit : split sep before ++ part :: split sep behind = [] :: split sep text ++ [[]] := by
      rw [← split_bracketed, ← h, ← split_append hsep, ← split_append_sep]
      simp
    -- the outermost two parts are the empty ones around the text
    cases hbefore : split sep before with
    | nil => exact absurd hbefore (split_ne_nil sep before)
    | cons a as =>
        obtain ⟨bs, b, hbehind⟩ := List.eq_nil_or_concat' (split sep behind) |>.resolve_left
          (split_ne_nil sep behind)
        rw [hbefore, hbehind, List.cons_append, List.cons_append, List.cons.injEq] at hsplit
        have hinner : (as ++ part :: bs) ++ [b] = split sep text ++ [[]] := by
          rw [← hsplit.2]
          simp
        rw [← (List.append_inj' hinner rfl).1]
        exact List.mem_append_right _ List.mem_cons_self

/-- What a part holds, the text holds. -/
theorem mem_of_mem_split {c : Char} (h : part ∈ split sep text) (hc : c ∈ part) : c ∈ text := by
  obtain ⟨hsep, hinfix⟩ := mem_split_iff.mp h
  have hmem : c ∈ sep :: text ++ [sep] := hinfix.subset (by simp [hc])
  have hne : c ≠ sep := fun heq => hsep (heq ▸ hc)
  simpa [hne] using hmem

/-- A text has an empty part when it is empty, when a separator stands at one of its ends, or when
    two of them stand side by side. -/
theorem nil_mem_split_iff :
    [] ∈ split sep text ↔
      text = [] ∨ [sep] <+: text ∨ [sep] <:+ text ∨ [sep, sep] <:+: text := by
  have hends : [sep, sep] <:+ sep :: text ++ [sep] ↔ text = [] ∨ [sep] <:+ text := by
    have hlast : [sep, sep] = [sep] ++ [sep] := rfl
    rw [hlast, List.suffix_append_inj_of_length_eq rfl, List.suffix_cons_iff, List.cons.injEq]
    simp [eq_comm]
  have hstarts : [sep, sep] <+: sep :: text ↔ [sep] <+: text := by
    simp [List.cons_prefix_cons]
  have hpart : [] ∈ split sep text ↔ [sep, sep] <:+: sep :: text ++ [sep] := by
    rw [mem_split_iff]
    simp
  rw [hpart, List.infix_concat_iff, hends, List.infix_cons_iff, hstarts]
  tauto

end Text

/-! ## 2. Members of an operand -/

namespace Condition

variable {c : Condition}

theorem mem_members {m : String} : m ∈ c.members ↔ m.toList ∈ Text.split ',' c.operand.toList := by
  rw [members, List.mem_map]
  constructor
  · rintro ⟨part, hpart, rfl⟩
    rw [String.toList_ofList]
    exact hpart
  · intro h
    exact ⟨m.toList, h, String.ofList_toList⟩

/-- There is one member more than there are commas. -/
theorem length_members (c : Condition) : c.members.length = c.operand.toList.count ',' + 1 := by
  rw [members, List.length_map, Text.length_split]

/-- No member holds a comma. -/
theorem comma_not_mem_of_mem_members {m : String} (h : m ∈ c.members) : ',' ∉ m.toList :=
  Text.not_mem_of_mem_split (mem_members.mp h)

/-- The members with commas between them are the operand. -/
theorem intercalate_members (c : Condition) : ",".intercalate c.members = c.operand := by
  have hback : c.members.map String.toList = Text.split ',' c.operand.toList := by
    rw [members, List.map_map]
    refine List.map_id'' (fun part => ?_) _
    exact String.toList_ofList
  rw [← String.toList_inj, String.toList_intercalate, hback]
  exact Text.intercalate_split ',' _

/-- **The members of an operand are what stands between commas in it.** -/
theorem mem_members_iff {m : String} :
    m ∈ c.members ↔
      ',' ∉ m.toList ∧ ("," ++ m ++ ",").toList <:+: ("," ++ c.operand ++ ",").toList := by
  rw [mem_members, Text.mem_split_iff]
  simp

/-- When the empty string is a member. -/
theorem empty_mem_members_iff :
    "" ∈ c.members ↔ c.operand = "" ∨ [','] <+: c.operand.toList ∨ [','] <:+ c.operand.toList ∨
      [',', ','] <:+: c.operand.toList := by
  rw [mem_members, String.toList_empty, Text.nil_mem_split_iff, String.toList_eq_nil_iff]

/-- The members of a plain condition hold no separators at all. -/
theorem not_mem_members_of_separator (hplain : c.Plain) {v : String}
    (h : ',' ∈ v.toList ∨ ':' ∈ v.toList ∨ '|' ∈ v.toList) : v ∉ c.members := by
  intro hmem
  have hoperand (d : Char) (hd : d ∈ v.toList) : d ∈ c.operand.toList :=
    Text.mem_of_mem_split (mem_members.mp hmem) hd
  rcases h with h | h | h
  · exact comma_not_mem_of_mem_members hmem h
  · exact hplain.operand.2 (hoperand _ h)
  · exact hplain.operand.1 (hoperand _ h)

end Condition

/-! ## 3. Constraints -/

namespace StringConstraint

variable [PatternEngine] {field : String} {c : Condition} {k : StringConstraint} {v : String}

/-- The constraint of `in` holds the members. -/
theorem ofCondition_of_in (h : c.operator = "in") :
    ofCondition field c = .ok (.among c.members) := by
  unfold ofCondition
  simp only [h]

/-- No other operator has the violation of `in`. -/
theorem kind_ne_strIn (hk : ofCondition field c = .ok k) (h : c.operator ≠ "in") :
    k.kind ≠ .strIn := by
  unfold ofCondition at hk
  split at hk
  · cases hn : readNatural c.operand with
    | error fault => rw [hn] at hk; cases hk
    | ok n =>
        rw [hn] at hk
        cases hk
        exact nofun
  · cases hp : PatternEngine.read c.operand with
    | error reason => rw [hp] at hk; cases hk
    | ok pattern =>
        rw [hp] at hk
        cases hk
        exact nofun
  · contradiction
  · cases hk

theorem among_violation?_eq_none_iff {members : List String} :
    violation? (among members) v = none ↔ v ∈ members := by
  rw [violation?_eq_none_iff, accepts, List.contains_iff_mem]

/-- **A string with a separator in it violates every `in`**, and no other condition says so. -/
theorem strIn_iff (hplain : c.Plain) (hk : ofCondition field c = .ok k)
    (hv : ',' ∈ v.toList ∨ ':' ∈ v.toList ∨ '|' ∈ v.toList) :
    violation? k v = some .strIn ↔ c.operator = "in" := by
  constructor
  · intro h
    by_contra hin
    exact kind_ne_strIn hk hin (violation?_eq_some_iff.mp h).2
  · intro hin
    rw [ofCondition_of_in hin, Except.ok.injEq] at hk
    subst hk
    have hnot : v ∉ c.members := Condition.not_mem_members_of_separator hplain hv
    rw [violation?_eq_some_iff, accepts]
    exact ⟨by simpa using hnot, rfl⟩

/-- One violation of `in` for every condition of `in`, when all of them are violated. -/
theorem count_strIn {conditions : List Condition} {constraints : List StringConstraint}
    (h : List.Forall₂ (fun c k => violation? k v = some .strIn ↔ c.operator = "in")
      conditions constraints) :
    (violationsOf field constraints v).count ⟨field, .strIn⟩
      = conditions.countP fun c => c.operator = "in" := by
  induction h with
  | nil => rfl
  | @cons c k conditions constraints hk _ ih =>
      rw [violationsOf, List.filterMap_cons, List.countP_cons, ← ih]
      by_cases hin : c.operator = "in"
      · rw [hk.mpr hin]
        simp [hin, violationsOf]
      · have hne := mt hk.mp hin
        cases hviolation : violation? k v with
        | none => simp [hin, violationsOf]
        | some kind =>
            rw [hviolation, Option.some.injEq] at hne
            simp [hin, violationsOf, hne]

end StringConstraint

/-! ## 4. Rules -/

/-- **A string is allowed when the list has it between two commas.** The members of an operand are
    one more than its commas, hold none, and joined with commas are the operand. Every operand of
    `in` is resolved, and a string passes exactly when it holds no comma and stands between two
    commas in the operand, with a comma put on either side of it; so the empty string passes
    exactly when the operand is empty, has a comma at one of its ends or two side by side. Under
    a rule that is resolved a string with a comma, a colon or a bar in it violates every `in`, and
    there is one such violation in the report for each of them. -/
theorem allowed_strings_bracketed [PatternEngine] (config : Config) (field : String) :
    (∀ c : Condition, c.members.length = c.operand.toList.count ',' + 1 ∧
      (∀ m ∈ c.members, ',' ∉ m.toList) ∧ ",".intercalate c.members = c.operand) ∧
    (∀ operand : String, ∃ k : StringConstraint,
      (resolve field ⟨"in", operand⟩ : Except SetupError StringConstraint) = .ok k ∧
      (∀ v : String, violation? k v = none ↔
        ',' ∉ v.toList ∧ ("," ++ v ++ ",").toList <:+: ("," ++ operand ++ ",").toList) ∧
      (violation? k "" = none ↔ operand = "" ∨ [','] <+: operand.toList ∨
        [','] <:+ operand.toList ∨ [',', ','] <:+: operand.toList)) ∧
    (∀ (rule : String) (conditions : List Condition) (constraints : List StringConstraint)
        (v : String), Rule.parse rule = .ok conditions →
      resolveAll StringConstraint field conditions = .ok constraints →
      (',' ∈ v.toList ∨ ':' ∈ v.toList ∨ '|' ∈ v.toList) →
        List.Forall₂ (fun c k => c.operator = "in" → violation? k v = some .strIn)
          conditions constraints ∧
        ∃ report, config.report (.single field rule (.leaf (.str v))) = .ok report ∧
          report.violations.count ⟨field, .strIn⟩
            = conditions.countP fun c => c.operator = "in") := by
  refine ⟨?_, ?_, ?_⟩
  · intro c
    refine ⟨c.length_members, ?_, c.intercalate_members⟩
    intro m hm
    exact Condition.comma_not_mem_of_mem_members hm
  · intro operand
    refine ⟨.among (Condition.mk "in" operand).members, rfl, ?_, ?_⟩
    · intro v
      rw [StringConstraint.among_violation?_eq_none_iff, Condition.mem_members_iff]
    · rw [StringConstraint.among_violation?_eq_none_iff, Condition.empty_mem_members_iff]
  · intro rule conditions constraints v hparse hresolve hv
    have hplain := (Rule.parse_eq_ok_iff.mp hparse).plain
    have hsteps := hresolve
    rw [resolveAll_eq_mapM, mapM_eq_ok_iff] at hsteps
    have heach : List.Forall₂ (fun c k => violation? k v = some .strIn ↔ c.operator = "in")
        conditions constraints :=
      ((List.forall₂_and_left _ _).mpr ⟨hplain, hsteps⟩).imp
        fun c k h => StringConstraint.strIn_iff h.1 h.2 hv
    have hresolves : Rule.ResolvesTo field rule constraints := ⟨conditions, hparse, hresolve⟩
    refine ⟨heach.imp fun c k h => h.mpr, ⟨evaluate field constraints [v]⟩, ?_, ?_⟩
    · rw [report_single_leaf, Leaf.outcome, checkValues_eq_ok_iff.mpr ⟨_, hresolves, rfl⟩]
      rfl
    · rw [evaluate_singleton]
      exact StringConstraint.count_strIn heach

/-- A length and two lists, the second of them with an empty member. -/
def listedConditions : List Condition := [⟨"len", "3"⟩, ⟨"in", "a,b"⟩, ⟨"in", ",x"⟩]

open scoped Pattern

/-- The whole first list is no member of it, and an empty member lets the empty string pass. -/
theorem allowed_strings_bracketed_wholeList :
    Rule.parse "len:3|in:a,b|in:,x" = .ok listedConditions ∧
      resolveAll StringConstraint "role" listedConditions
        = .ok [.len 3, .among ["a", "b"], .among ["", "x"]] ∧
      ',' ∈ "a,b".toList ∧
      (∃ report, Config.standard.report
          (.single "role" "len:3|in:a,b|in:,x" (.leaf (.str "a,b"))) = .ok report ∧
        report.violations.count ⟨"role", .strIn⟩ = 2) ∧
      ∃ k : StringConstraint,
        (resolve "role" ⟨"in", ",x"⟩ : Except SetupError StringConstraint) = .ok k ∧
          violation? k "" = none := by
  have hparse : Rule.parse "len:3|in:a,b|in:,x" = .ok listedConditions := rfl
  have hresolve : resolveAll StringConstraint "role" listedConditions
      = .ok [.len 3, .among ["a", "b"], .among ["", "x"]] := rfl
  have hcomma : ',' ∈ "a,b".toList := by decide
  obtain ⟨-, hoperand, hrule⟩ := allowed_strings_bracketed .standard "role"
  obtain ⟨-, hreport⟩ := hrule _ _ _ "a,b" hparse hresolve (Or.inl hcomma)
  obtain ⟨k, hk, -, hempty⟩ := hoperand ",x"
  exact ⟨hparse, hresolve, hcomma, hreport, k, hk, hempty.mpr (by decide)⟩

end RecordRules
