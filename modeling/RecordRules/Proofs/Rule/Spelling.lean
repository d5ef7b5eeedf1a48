import RecordRules.Proofs.Traversal
import RecordRules.Rule

/-!
# Rules and the conditions they spell

A rule is a written form of conditions. Which text spells which conditions is said here without the
reader: a text has parts between separators (`Text.PartsOf`), a condition is plain when none of its
two texts holds a separator (`Condition.Plain`), and a rule spells plain conditions when it is one
of their written forms (`Rule.Spells`).

* `Text.partsOf_iff`: cutting a text at every separator finds its parts, and they are the only ones;
* `Condition.ofClause?_eq_some_iff` and `Condition.ofClause?_eq_none_iff`: a clause is read exactly
  when it is a written form of a condition, and that is exactly when it holds one colon at most;
* **`Rule.parse_eq_ok_iff`**: a rule is read into exactly the conditions that it spells;
* `Rule.parse_eq_error_iff`: what cannot be read has a first clause with too many colons.

**`parse_inverts_render`** puts them together.
-/

namespace RecordRules

/-! ## 1. Parts between separators -/

namespace Text

/-- The parts of a text between separators. -/
structure PartsOf (sep : Char) (text : List Char) (parts : List (List Char)) : Prop where
  /-- There is a part, even if it is an empty one. -/
  ne_nil : parts ≠ []
  /-- No part can be cut any further. -/
  separate : ∀ part ∈ parts, sep ∉ part
  /-- The parts, with the separators between them, are the text. -/
  joined : List.intercalate [sep] parts = text

/-- Every text has parts, and it has no others. -/
theorem partsOf_iff {sep : Char} {text : List Char} {parts : List (List Char)} :
    PartsOf sep text parts ↔ split sep text = parts := by
  constructor
  · intro h
    rw [← h.joined]
    exact split_intercalate h.ne_nil h.separate
  · rintro rfl
    exact ⟨split_ne_nil sep text, fun _ => not_mem_of_mem_split, intercalate_split sep text⟩

theorem partsOf_split (sep : Char) (text : List Char) : PartsOf sep text (split sep text) :=
  partsOf_iff.mpr rfl

end Text

/-! ## 2. Clauses and conditions -/

namespace Condition

/-- Nothing in the condition separates clauses, or an operator from its operand. -/
structure Plain (c : Condition) : Prop where
  /-- Not in the operator. -/
  operator : '|' ∉ c.operator.toList ∧ ':' ∉ c.operator.toList
  /-- Not in the operand. -/
  operand : '|' ∉ c.operand.toList ∧ ':' ∉ c.operand.toList

variable {clause : List Char} {c : Condition}

/-- The written form holds a bar only where one of the two texts does. -/
theorem bar_not_mem_render {colon : Bool} :
    '|' ∉ c.render colon ↔ '|' ∉ c.operator.toList ∧ '|' ∉ c.operand.toList := by
  unfold render
  split
  · rename_i hc
    simp [hc.1]
  · simp

/-- A clause without a colon is an operator. -/
theorem ofClause?_of_not_mem (h : ':' ∉ clause) :
    ofClause? clause = some ⟨String.ofList clause, ""⟩ := by
  rw [ofClause?, Text.split_of_not_mem h]

/-- A clause with one colon is an operator and an operand. -/
theorem ofClause?_append {operator operand : List Char} (h : ':' ∉ operator)
    (h' : ':' ∉ operand) :
    ofClause? (operator ++ ':' :: operand)
      = some ⟨String.ofList operator, String.ofList operand⟩ := by
  rw [ofClause?, Text.split_append h, Text.split_of_not_mem h']

/-- **A clause is read exactly when it is a written form of a condition**, with or without a colon
    where there is no operand. -/
theorem ofClause?_eq_some_iff :
    ofClause? clause = some c ↔
      (':' ∉ c.operator.toList ∧ ':' ∉ c.operand.toList) ∧ ∃ colon, c.render colon = clause := by
  constructor
  · intro h
    have hparts := Text.partsOf_split ':' clause
    rw [ofClause?] at h
    split at h
    · rename_i operator hs
      rw [hs] at hparts
      cases h
      have hclause : operator = clause := by simpa using hparts.joined
      refine ⟨⟨?_, List.not_mem_nil⟩, false, ?_⟩
      · rw [String.toList_ofList]
        exact hparts.separate operator List.mem_cons_self
      · rw [render, if_pos ⟨rfl, rfl⟩, String.toList_ofList, hclause]
    · rename_i operator operand hs
      rw [hs] at hparts
      cases h
      have hclause : operator ++ ':' :: operand = clause := by simpa using hparts.joined
      refine ⟨⟨?_, ?_⟩, true, ?_⟩
      · rw [String.toList_ofList]
        exact hparts.separate operator List.mem_cons_self
      · rw [String.toList_ofList]
        exact hparts.separate operand (List.mem_cons_of_mem _ List.mem_cons_self)
      · rw [render, if_neg (fun hc => Bool.noConfusion hc.2), String.toList_ofList,
          String.toList_ofList, hclause]
    · cases h
  · rintro ⟨⟨hoperator, hoperand⟩, colon, rfl⟩
    unfold render
    split
    · rename_i hc
      rw [ofClause?_of_not_mem hoperator, String.ofList_toList, ← hc.1]
    · rw [ofClause?_append hoperator hoperand, String.ofList_toList, String.ofList_toList]

/-- Only a second colon keeps a clause from being read. -/
theorem ofClause?_eq_none_iff : ofClause? clause = none ↔ 2 ≤ clause.count ':' := by
  have hlength := Text.length_split ':' clause
  rw [ofClause?]
  split
  · rename_i hs
    rw [hs, List.length_singleton] at hlength
    exact ⟨fun h => (by cases h), fun h => (by omega)⟩
  · rename_i hs
    rw [hs, List.length_cons, List.length_singleton] at hlength
    exact ⟨fun h => (by cases h), fun h => (by omega)⟩
  · rename_i hone htwo
    refine ⟨fun _ => ?_, fun _ => rfl⟩
    match hs : Text.split ':' clause with
    | [] => exact absurd hs (Text.split_ne_nil ':' clause)
    | [operator] => exact absurd hs (hone operator)
    | [operator, operand] => exact absurd hs (htwo operator operand)
    | _ :: _ :: _ :: parts =>
        rw [hs] at hlength
        simp only [List.length_cons] at hlength
        omega

theorem exists_ofClause?_iff : (∃ c, ofClause? clause = some c) ↔ clause.count ':' < 2 := by
  rw [← Option.ne_none_iff_exists', Ne, ofClause?_eq_none_iff, Nat.not_le]

end Condition

/-! ## 3. Rules -/

namespace Rule

/-- The rule is a written form of the conditions, which hold no separators themselves. -/
structure Spells (rule : String) (conditions : List Condition) : Prop where
  /-- There is a condition, even if it is an empty one. -/
  ne_nil : conditions ≠ []
  /-- What separates is not part of a condition. -/
  plain : ∀ c ∈ conditions, c.Plain
  /-- The written form, with the choice of a colon for each condition. -/
  written : ∃ choices : List (Condition × Bool),
    choices.map Prod.fst = conditions ∧ render choices = rule

/-- The condition of one clause of a rule, or the error that shows both. -/
def readClause (rule : String) (clause : List Char) : Except SetupError Condition :=
  match Condition.ofClause? clause with
  | none => .error (.malformedClause rule (String.ofList clause))
  | some c => .ok c

theorem ofClauses_eq_mapM (rule : String) : ∀ clauses : List (List Char),
    ofClauses rule clauses = clauses.mapM (readClause rule)
  | [] => rfl
  | clause :: clauses => by
      rw [ofClauses, ofClauses_eq_mapM rule clauses]
      cases hc : Condition.ofClause? clause with
      | none => exact (mapM_cons_of_error (by rw [readClause, hc]) clauses).symm
      | some c => exact (mapM_cons_of_ok (by rw [readClause, hc]) clauses).symm

variable {rule : String} {clause : List Char} {clauses : List (List Char)} {c : Condition}
  {conditions : List Condition} {e : SetupError}

theorem readClause_eq_ok_iff :
    readClause rule clause = .ok c ↔ Condition.ofClause? clause = some c := by
  rw [readClause]
  cases Condition.ofClause? clause with
  | none => exact ⟨fun h => (by cases h), fun h => (by cases h)⟩
  | some d => rw [Except.ok.injEq, Option.some.injEq]

theorem readClause_eq_error_iff :
    readClause rule clause = .error e ↔
      2 ≤ clause.count ':' ∧ e = .malformedClause rule (String.ofList clause) := by
  rw [← Condition.ofClause?_eq_none_iff, readClause]
  cases Condition.ofClause? clause with
  | none => rw [Except.error.injEq, eq_comm, eq_self_iff_true, true_and]
  | some d => exact ⟨fun h => (by cases h), fun h => (by cases h.1)⟩

theorem exists_readClause_iff : (∃ c, readClause rule clause = .ok c) ↔ clause.count ':' < 2 := by
  simp only [readClause_eq_ok_iff]
  exact Condition.exists_ofClause?_iff

/-- Clauses are read one by one, and what they are read into does not depend on the rule. -/
theorem ofClauses_eq_ok_iff :
    ofClauses rule clauses = .ok conditions ↔
      List.Forall₂ (fun clause c => Condition.ofClause? clause = some c) clauses conditions := by
  rw [ofClauses_eq_mapM, mapM_eq_ok_iff]
  simp only [readClause_eq_ok_iff]

/-- Clauses that are read are written forms of what they are read into. -/
theorem exists_choices (h : List.Forall₂ (fun clause c => Condition.ofClause? clause = some c)
    clauses conditions) :
    ∃ choices : List (Condition × Bool), choices.map Prod.fst = conditions ∧
      (choices.map fun (c, colon) => c.render colon) = clauses := by
  induction h with
  | nil => exact ⟨[], rfl, rfl⟩
  | cons hc _ ih =>
      obtain ⟨-, colon, rfl⟩ := Condition.ofClause?_eq_some_iff.mp hc
      obtain ⟨choices, rfl, rfl⟩ := ih
      exact ⟨(_, colon) :: choices, rfl, rfl⟩

/-- Conditions read from clauses without bars are plain. -/
theorem plain_of_clauses (h : List.Forall₂ (fun clause c => Condition.ofClause? clause = some c)
    clauses conditions) (hbar : ∀ clause ∈ clauses, '|' ∉ clause) : ∀ c ∈ conditions, c.Plain := by
  induction h with
  | nil => exact fun _ h => absurd h List.not_mem_nil
  | cons hc _ ih =>
      obtain ⟨⟨hoperator, hoperand⟩, colon, rfl⟩ := Condition.ofClause?_eq_some_iff.mp hc
      obtain ⟨hfirst, hrest⟩ := List.forall_mem_cons.mp hbar
      have hbars := Condition.bar_not_mem_render.mp hfirst
      exact List.forall_mem_cons.mpr
        ⟨⟨⟨hbars.1, hoperator⟩, ⟨hbars.2, hoperand⟩⟩, ih hrest⟩

/-- **A written form of plain conditions is read into them.** -/
theorem parse_render {choices : List (Condition × Bool)} (hne : choices ≠ [])
    (hplain : ∀ c ∈ choices.map Prod.fst, c.Plain) :
    parse (render choices) = .ok (choices.map Prod.fst) := by
  have hchoice : ∀ choice ∈ choices, choice.1.Plain := fun choice h =>
    hplain choice.1 (List.mem_map_of_mem h)
  have hparts : Text.split '|' (render choices).toList
      = choices.map fun (c, colon) => c.render colon := by
    rw [render, String.toList_ofList]
    refine Text.split_intercalate (fun h => hne (List.map_eq_nil_iff.mp h)) fun clause h => ?_
    obtain ⟨choice, hmem, rfl⟩ := List.mem_map.mp h
    have hc := hchoice choice hmem
    exact Condition.bar_not_mem_render.mpr ⟨hc.operator.1, hc.operand.1⟩
  rw [parse, hparts, ofClauses_eq_ok_iff, List.forall₂_map_left_iff, List.forall₂_map_right_iff,
    List.forall₂_same]
  intro choice hmem
  have hc := hchoice choice hmem
  exact Condition.ofClause?_eq_some_iff.mpr ⟨⟨hc.operator.2, hc.operand.2⟩, choice.2, rfl⟩

/-- **A rule is read into exactly the conditions that it spells.** -/
theorem parse_eq_ok_iff : parse rule = .ok conditions ↔ Spells rule conditions := by
  constructor
  · intro h
    have hclauses := ofClauses_eq_ok_iff.mp h
    obtain ⟨choices, hfst, hwritten⟩ := exists_choices hclauses
    refine ⟨ne_nil_of_parse h, plain_of_clauses hclauses fun _ => Text.not_mem_of_mem_split,
      choices, hfst, ?_⟩
    rw [render, hwritten, Text.intercalate_split, String.ofList_toList]
  · rintro ⟨hne, hplain, choices, rfl, rfl⟩
    exact parse_render (fun h => hne (by rw [h]; rfl)) hplain

/-- **A rule that cannot be read is shown with the first clause that has too many colons.** -/
theorem parse_eq_error_iff :
    parse rule = .error e ↔
      ∃ front clause back, Text.PartsOf '|' rule.toList (front ++ clause :: back) ∧
        (∀ part ∈ front, part.count ':' < 2) ∧ 2 ≤ clause.count ':' ∧
        e = .malformedClause rule (String.ofList clause) := by
  simp only [parse, ofClauses_eq_mapM, mapM_eq_error_iff, exists_readClause_iff,
    readClause_eq_error_iff, Text.partsOf_iff]

/-- **A rule can be read exactly when no clause of it has too many colons.** -/
theorem exists_parse_iff :
    (∃ conditions, parse rule = .ok conditions) ↔
      ∃ clauses, Text.PartsOf '|' rule.toList clauses ∧
        ∀ clause ∈ clauses, clause.count ':' < 2 := by
  simp only [parse, ofClauses_eq_mapM, exists_mapM_iff, exists_readClause_iff, Text.partsOf_iff,
    exists_eq_left']

/-- **Reading a rule undoes writing it.** A rule can be read exactly when none of its clauses holds
    two colons. What it is read into has one condition more than there are bars, no condition holds
    a bar or a colon, and the rule is one of their written forms. Conversely, every written form of
    conditions without bars and colons is read into these conditions. -/
theorem parse_inverts_render (rule : String) :
    ((∃ conditions, parse rule = .ok conditions) ↔
      ∃ clauses, Text.PartsOf '|' rule.toList clauses ∧
        ∀ clause ∈ clauses, clause.count ':' < 2) ∧
    (∀ conditions, parse rule = .ok conditions →
      conditions.length = rule.toList.count '|' + 1 ∧ (∀ c ∈ conditions, c.Plain) ∧
        ∃ choices : List (Condition × Bool),
          choices.map Prod.fst = conditions ∧ render choices = rule) ∧
    (∀ choices : List (Condition × Bool), choices ≠ [] → (∀ choice ∈ choices, choice.1.Plain) →
      render choices = rule → parse rule = .ok (choices.map Prod.fst)) := by
  refine ⟨exists_parse_iff, fun conditions h => ?_, fun choices hne hplain hrule => ?_⟩
  · have hspells := parse_eq_ok_iff.mp h
    refine ⟨?_, hspells.plain, hspells.written⟩
    rw [length_of_parse h, clauseCount, Text.length_split]
  · rw [← hrule]
    exact parse_render hne (List.forall_mem_map.mpr hplain)

/-- Two empty clauses, one of them with a colon, and an operand that is left out. -/
example : parse ":||in|len:5" = .ok [⟨"", ""⟩, ⟨"", ""⟩, ⟨"in", ""⟩, ⟨"len", "5"⟩] := rfl

end Rule

end RecordRules
