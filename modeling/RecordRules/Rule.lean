import RecordRules.SetupError
import RecordRules.Text.Split

/-!
# Rules

A rule is a list of clauses with `|` between them, and a clause is an operator with an optional
operand behind `:`. Nothing is escaped, so an operand may hold commas but neither `|` nor `:`.

* `Rule.parse` reads a rule; a clause with a second `:` is the one thing it refuses;
* `Condition.members` are the parts of an operand between commas;
* `Rule.render` writes conditions down again. A condition without an operand has two written forms,
  with and without `:`, so the form is chosen clause by clause.
-/

namespace RecordRules

/-- One condition of a rule: an operator with its operand, which is empty when there is none. -/
structure Condition where
  /-- The operator. -/
  operator : String
  /-- The operand. -/
  operand : String
  deriving DecidableEq, Repr

namespace Condition

/-- The parts of the operand between commas; an empty operand is one empty part. -/
def members (c : Condition) : List String := (Text.split ',' c.operand.toList).map String.ofList

/-- The condition of one clause, unless the clause holds a second colon. -/
def ofClause? (clause : List Char) : Option Condition :=
  match Text.split ':' clause with
  | [operator] => some ⟨String.ofList operator, ""⟩
  | [operator, operand] => some ⟨String.ofList operator, String.ofList operand⟩
  | _ => none

/-- The written form of a condition. Without an operand the colon stands only when `colon` asks for
    it. -/
def render (colon : Bool) (c : Condition) : List Char :=
  if c.operand = "" ∧ colon = false then c.operator.toList
  else c.operator.toList ++ ':' :: c.operand.toList

end Condition

namespace Rule

/-- The conditions of the clauses, in order. The first clause that is none decides the error, which
    names the whole rule too. -/
def ofClauses (rule : String) : List (List Char) → Except SetupError (List Condition)
  | [] => .ok []
  | clause :: clauses =>
    match Condition.ofClause? clause with
    | none => .error (.malformedClause rule (String.ofList clause))
    | some c => (ofClauses rule clauses).map (c :: ·)

/-- The conditions of a rule, in order. -/
def parse (rule : String) : Except SetupError (List Condition) :=
  ofClauses rule (Text.split '|' rule.toList)

/-- The number of clauses of a rule, whether they can be read or not. -/
def clauseCount (rule : String) : Nat := (Text.split '|' rule.toList).length

theorem length_of_ofClauses {rule : String} : ∀ {clauses : List (List Char)}
    {conditions : List Condition}, ofClauses rule clauses = .ok conditions →
      conditions.length = clauses.length
  | [], _, h => by
      cases h
      rfl
  | clause :: clauses, conditions, h => by
      rw [ofClauses] at h
      cases hc : Condition.ofClause? clause with
      | none => rw [hc] at h; cases h
      | some c =>
          rw [hc] at h
          cases hs : ofClauses rule clauses with
          | error e => rw [hs] at h; cases h
          | ok cs =>
              rw [hs] at h
              cases h
              rw [List.length_cons, List.length_cons, length_of_ofClauses hs]

/-- A rule that can be read has one condition for every clause. -/
theorem length_of_parse {rule : String} {conditions : List Condition}
    (h : parse rule = .ok conditions) : conditions.length = clauseCount rule :=
  length_of_ofClauses h

/-- A rule that can be read has a condition, even the empty one. -/
theorem ne_nil_of_parse {rule : String} {conditions : List Condition}
    (h : parse rule = .ok conditions) : conditions ≠ [] := by
  intro hnil
  have hlen : (Text.split '|' rule.toList).length = 0 := by
    rw [← clauseCount, ← length_of_parse h, hnil, List.length_nil]
  exact Text.split_ne_nil '|' rule.toList (List.length_eq_zero_iff.mp hlen)

/-- The written form of conditions, each with the choice whether a colon without an operand
    stands. -/
def render (conditions : List (Condition × Bool)) : String :=
  String.ofList (List.intercalate ['|'] (conditions.map fun (c, colon) => c.render colon))

end Rule

end RecordRules
