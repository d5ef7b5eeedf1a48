import RecordRules.Pattern.Reader
import RecordRules.Proofs.Leaves
import RecordRules.Proofs.Walk

/-!
# The violations of one field

A report can be asked for the violations of one field, and a record can be cut down to the leaves
of one name. Both come to the same, as long as the whole record has a report: a violation carries
the name of the leaf that it was found at, however deep that leaf lies and however often it is
visited, and a leaf that passes can be left out without anything else changing.

* `Record.slice` is the record without the leaves of other names; nested records stay;
* `Leaf.filter_of_outcome`: picking a field takes all violations of a leaf or none, since they carry
  its name;
* `Record.walk_slice`: the walk through a slice collects what was picked.

**`slice_report`** says it of whole validations.
-/

namespace RecordRules

/-! ## 1. Slices of a record -/

mutual

/-- The record without the leaves of other names, on every level. -/
def Record.slice (name : String) : Record → Record
  | .unreadable e => .unreadable e
  | .ofFields fields => .ofFields (sliceFields name fields)

/-- The leaves of one name among the fields, and all nested records, cut down in the same way. -/
def sliceFields (name : String) : List Field → List Field
  | [] => []
  | .mk field rule (.leaf v) :: fields =>
    if field = name then .mk field rule (.leaf v) :: sliceFields name fields
    else sliceFields name fields
  | .mk field rule (.record inner) :: fields =>
    .mk field rule (.record (inner.slice name)) :: sliceFields name fields

end

/-- Picking a field takes all violations of a leaf of that name, and none of any other. -/
theorem Leaf.filter_of_outcome [PatternEngine] {config : Config} {field rule : String}
    {v : Leaf} {us : List Violation} (h : v.outcome config field rule = .ok us) (name : String) :
    us.filter (fun u => u.field = name) = if field = name then us else [] := by
  have hfield := Leaf.forall_field_of_outcome h
  by_cases hname : field = name
  · rw [if_pos hname, List.filter_eq_self]
    intro u hu
    exact decide_eq_true ((hfield u hu).trans hname)
  · rw [if_neg hname, List.filter_eq_nil_iff]
    intro u hu hpicked
    exact hname ((hfield u hu).symm.trans (of_decide_eq_true hpicked))

/-! ## 2. Walks through slices -/

section Records

variable [PatternEngine] {config : Config}

mutual

/-- **The walk through a slice of a record collects the violations of one field.** -/
theorem Record.walk_slice (name : String) (depth : Nat) : ∀ {record : Record}
    {us : List Violation}, (record.walk config depth).result = .ok us →
      ((record.slice name).walk config depth).result = .ok (us.filter fun u => u.field = name)
  | .unreadable e, us, h => by cases h
  | .ofFields fields, us, h => by
      rw [Record.walk_ofFields, Walk.result_ofRecord] at h
      rw [Record.slice, Record.walk_ofFields, Walk.result_ofRecord]
      exact walkFields_slice name depth h

theorem walkFields_slice (name : String) (depth : Nat) : ∀ {fields : List Field}
    {us : List Violation}, (walkFields config depth fields).result = .ok us →
      (walkFields config depth (sliceFields name fields)).result
        = .ok (us.filter fun u => u.field = name)
  | [], us, h => by
      cases h
      rfl
  | .mk field rule (.leaf v) :: fields, us, h => by
      obtain ⟨vs, ws, hv, hw, rfl, -⟩ := walkFields_leaf_eq_ok h
      have hrest := walkFields_slice name depth hw
      rw [List.filter_append, Leaf.filter_of_outcome hv name, sliceFields]
      by_cases hname : field = name
      · rw [if_pos hname, if_pos hname, walkFields_leaf, hv, Walk.andThen_of_ok rfl, hrest]
        rfl
      · rw [if_neg hname, if_neg hname, List.nil_append, hrest]
  | .mk field rule (.record inner) :: fields, us, h => by
      rw [walkFields_record] at h
      obtain ⟨xs, ws, hx, hw, rfl, -⟩ := Walk.andThen_eq_ok h
      rw [Walk.result_after] at hx
      obtain ⟨vs, hvs, -⟩ := Walk.perRule_eq_ok hx
      have hxs : xs = (List.replicate (Rule.clauseCount rule) vs).flatten :=
        Except.ok.inj (hx.symm.trans (Walk.perRule_repeats hx hvs))
      have hinner := Walk.perRule_repeats hx (Record.walk_slice name (depth + 1) hvs)
      have hrest := walkFields_slice name depth hw
      rw [sliceFields, walkFields_record, Walk.andThen_of_ok ((Walk.result_after _ _).trans hinner),
        hrest, List.filter_append, hxs, List.filter_flatten, List.map_replicate]
      rfl

end

/-- **A report is sliced by slicing the record.** A record with a report keeps having one without
    the leaves of other names, and it is what the whole report has of the one field, in the same
    order and with the same repetitions. -/
theorem slice_report {record : Record} {report : Report} (h : config.report record = .ok report)
    (name : String) : config.report (record.slice name) = .ok ⟨report.forField name⟩ := by
  rw [report_eq_ok] at h ⊢
  exact Record.walk_slice name 0 h

end Records

/-- A name on two levels, in a nested record that is walked through twice and beside it, with leaves
    of another name between them. -/
def nameOnTwoLevels : Record :=
  .ofFields
    [.mk "a" "min:5|max:1" (.leaf (.int 3)),
     .mk "a" "nested|nested" (.record (.ofFields
      [.mk "b" "len:2" (.leaf (.str "x")), .mk "a" "in:y" (.leaf (.strSeq ["x", "y", "z"]))])),
     .mk "b" "max:1" (.leaf (.int 2))]

open scoped Pattern

/-- Six of the nine violations carry the name. -/
theorem slice_report_nameOnTwoLevels :
    Config.standard.report nameOnTwoLevels
        = .ok ⟨[⟨"a", .intMin⟩, ⟨"a", .intMax⟩, ⟨"b", .strLen⟩, ⟨"a", .strIn⟩, ⟨"a", .strIn⟩,
            ⟨"b", .strLen⟩, ⟨"a", .strIn⟩, ⟨"a", .strIn⟩, ⟨"b", .intMax⟩]⟩ ∧
      Config.standard.report (nameOnTwoLevels.slice "a")
        = .ok ⟨[⟨"a", .intMin⟩, ⟨"a", .intMax⟩, ⟨"a", .strIn⟩, ⟨"a", .strIn⟩, ⟨"a", .strIn⟩,
            ⟨"a", .strIn⟩]⟩ := by
  have h : Config.standard.report nameOnTwoLevels
      = .ok ⟨[⟨"a", .intMin⟩, ⟨"a", .intMax⟩, ⟨"b", .strLen⟩, ⟨"a", .strIn⟩, ⟨"a", .strIn⟩,
          ⟨"b", .strLen⟩, ⟨"a", .strIn⟩, ⟨"a", .strIn⟩, ⟨"b", .intMax⟩]⟩ := rfl
  exact ⟨h, slice_report h "a"⟩

end RecordRules
