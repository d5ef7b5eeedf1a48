import Mathlib.Data.List.Forall2
import RecordRules.Config.Json
import RecordRules.Proofs.Json.Reading
import RecordRules.Report.Json

/-!
# Reports and configurations come back from their texts

A stored report is an array of objects and a configuration is one object, so few containers are
open at once, and what is read from their texts is the whole value.

* `Document.decode_print`: to decode the text of a value without numbers is to decode the value,
  as long as its containers fit;
* `Draft.choice_ofJson`, `Draft.itemsOf_ofItems`: a choice comes back from its name, and a list when
  each of its items does;
* `Report.decode_ofJson`, `Config.decode_ofJson`: the values decode to what they are made of;
* `SameViolation` compares an entry of a stored report with an entry of a report for transport, by
  nothing but the members of their objects; `sameViolation_entry` says that they agree.

**`texts_comeBack`** puts these together.
-/

namespace RecordRules

/-! ## 1. Decoding in general -/

/-- **To decode a written value is to decode the value.** -/
theorem Document.decode_print {α : Type} (decode : Draft → Decoded α) {j : Json}
    (h : j.Numberless) (hn : j.nesting ≤ Json.depthLimit) :
    (Document.ofText j.print).decode decode = decode (.ofJson j) := by
  obtain ⟨hends, ⟨-, hdraft⟩ | ⟨hdeep, -⟩⟩ := Document.ofText_print h
  · rw [Document.decode, hends, hdraft]
    cases decode (.ofJson j) <;> rfl
  · exact absurd hn (Nat.not_le.mpr hdeep)

namespace Draft

variable {α : Type}

theorem choice_ofJson {ofName? : String → Option α} {name : String} {value : α}
    (h : ofName? name = some value) (choices : List String) :
    choice ofName? choices (.ofJson (.string name)) = .ok value := by
  rw [ofJson, choice, variant, h]

/-- Items come back when each of them does. -/
theorem itemsOf_ofItems {decode : Draft → Decoded α} {toJson : α → Json}
    (h : ∀ a, decode (.ofJson (toJson a)) = .ok a) :
    ∀ as : List α, itemsOf decode (ofItems (as.map toJson)) .closed = .ok as
  | [] => rfl
  | a :: as => by
      rw [List.map_cons, ofItems, itemsOf, h a, itemsOf_ofItems h as]
      rfl

end Draft

/-! ## 2. Reports -/

namespace Violation

theorem numberless_toJson (v : Violation) : v.toJson.Numberless :=
  .object (List.forall_mem_cons.mpr
    ⟨.string v.field, List.forall_mem_singleton.mpr (.string v.kind.name)⟩)

theorem decode_ofJson (v : Violation) : decode (.ofJson v.toJson) = .ok v := by
  have hkind : ViolationKind.decode (.string (some v.kind.name)) = .ok v.kind :=
    Draft.choice_ofJson (ViolationKind.ofName?_name v.kind) _
  have hmembers : decodeMembers (some v.field) none
      [.mk (.string (some "kind")) (.string (some v.kind.name))] .closed = .ok v := by
    rw [decodeMembers, hkind]
    rfl
  rw [← hmembers]
  rfl

end Violation

namespace Report

/-- Two containers are open in a stored report, and one when nothing was violated. -/
theorem nesting_toJson (r : Report) : r.toJson.nesting ≤ 2 := by
  have hitems : ∀ vs : List Violation, Json.itemsNesting (vs.map Violation.toJson) ≤ 1 := by
    intro vs
    induction vs with
    | nil => exact Nat.zero_le 1
    | cons v vs ih => exact Nat.max_le.mpr ⟨Nat.le_refl 1, ih⟩
  exact Nat.add_le_add_right (hitems r.violations) 1

theorem numberless_toJson (r : Report) : r.toJson.Numberless :=
  .array (List.forall_mem_map.mpr fun v _ => v.numberless_toJson)

/-- **A stored report decodes to the report.** -/
theorem decode_ofJson (r : Report) : decode (.ofJson r.toJson) = .ok r := by
  rw [toJson, Draft.ofJson, decode, Draft.sequenceOf,
    Draft.itemsOf_ofItems Violation.decode_ofJson]
  rfl

theorem ofText_stored (r : Report) : ofText r.text = .ok r := by
  have hn : r.toJson.nesting ≤ Json.depthLimit := Nat.le_trans r.nesting_toJson (by decide)
  rw [ofText, text, Document.decode_print decode r.numberless_toJson hn, decode_ofJson]

end Report

/-- An entry of a stored report and one of a report for transport that tell the same field, and the
    one under `kind` what the other tells under `code`. -/
def SameViolation (stored transported : Json) : Prop :=
  ∃ members members' field kind, stored = .object members ∧ transported = .object members' ∧
    Json.member? "field" members = some (.string field) ∧
    Json.member? "field" members' = some (.string field) ∧
    Json.member? "kind" members = some (.string kind) ∧
    Json.member? "code" members' = some (.string kind)

theorem sameViolation_entry (v : Violation) : SameViolation v.toJson (Report.entry v) :=
  ⟨_, _, v.field, v.kind.name, rfl, rfl, rfl, rfl, rfl,
    congrArg (fun code => some (Json.string code)) v.kind.code_eq_name⟩

/-! ## 3. Configurations -/

namespace Config

theorem numberless_toJson (config : Config) : config.toJson.Numberless :=
  .object (List.forall_mem_cons.mpr
    ⟨.string config.annotationKey,
      List.forall_mem_singleton.mpr (.string config.emptySequence.name)⟩)

/-- **A written configuration decodes to the configuration.** -/
theorem decode_ofJson (config : Config) : decode (.ofJson config.toJson) = .ok config := by
  have hpolicy : EmptySequence.decode (.string (some config.emptySequence.name))
      = .ok config.emptySequence :=
    Draft.choice_ofJson (EmptySequence.ofName?_name config.emptySequence) _
  have hmembers : decodeMembers ⟨some config.annotationKey, none⟩
      [.mk (.string (some "empty_sequence")) (.string (some config.emptySequence.name))] .closed
        = .ok config := by
    rw [decodeMembers, hpolicy]
    rfl
  rw [← hmembers]
  rfl

theorem ofText_written (config : Config) : ofText config.text = .ok config := by
  have hn : config.toJson.nesting ≤ Json.depthLimit := by
    have hone : config.toJson.nesting = 1 := rfl
    rw [hone]
    decide
  rw [ofText, text, Document.decode_print decode config.numberless_toJson hn, decode_ofJson]

end Config

/-! ## 4. Whole texts -/

/-- **Reports and configurations come back from their texts, and a report for transport says what
    the stored one says.** It is valid exactly when nothing is violated, and it has an entry for
    every stored one, in order, with the same field and the stored kind as its code. -/
theorem texts_comeBack :
    (∀ r : Report, Report.ofText r.text = .ok r ∧
      ∃ stored members transported valid, r.toJson = .array stored ∧ r.summary = .object members ∧
        Json.member? "valid" members = some (.bool valid) ∧ (valid = true ↔ r = .empty) ∧
        Json.member? "violations" members = some (.array transported) ∧
        transported.length = r.length ∧ List.Forall₂ SameViolation stored transported) ∧
    ∀ config : Config, Config.ofText config.text = .ok config := by
  refine ⟨fun r => ⟨r.ofText_stored, ?_⟩, Config.ofText_written⟩
  have hentries : List.Forall₂ SameViolation (r.violations.map Violation.toJson)
      (r.violations.map Report.entry) := by
    rw [List.forall₂_map_left_iff, List.forall₂_map_right_iff, List.forall₂_same]
    exact fun v _ => sameViolation_entry v
  exact ⟨_, _, _, r.isValid, rfl, rfl, rfl, r.isValid_iff, rfl, List.length_map _, hentries⟩

end RecordRules
