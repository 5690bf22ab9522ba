import Rollout.Element.Permitted
import Rollout.Proofs.Json.Fields

/-!
# Deleting what paths lead to

A deletion concerns the one field that its path starts with: it goes well with leaving out
fields by their names, and of the names it drops only one that a path consists of.
-/

namespace Rollout

namespace FieldPath

/-- A deletion erases the field that the path consists of, or puts what is left of the field
that the path starts with in its place. -/
theorem delete_cons (field : String) (steps : List String) (value : Fields) :
    ((⟨.value, field :: steps⟩ : FieldPath).delete value).2 =
      match value.get? field, steps with
      | none, _ => value
      | some _, [] => value.erase field
      | some child, step :: steps =>
        match child.delete? (step :: steps) with
        | some (_, left) => value.put field left
        | none => value := by
  cases hchild : value.get? field with
  | none => cases steps <;> simp [delete, Json.delete?, Json.child?, hchild]
  | some child =>
    cases steps with
    | nil => simp [delete, Json.delete?, Json.child?, Json.eraseChild, hchild]
    | cons step steps =>
      cases hdelete : child.delete? (step :: steps) <;>
        simp [delete, Json.delete?, Json.child?, Json.setChild, hchild, hdelete]

theorem delete_filter (path : FieldPath) (keeps : String → Bool) (value : Fields) :
    (path.delete (value.filter fun field => keeps field.1)).2 =
      (path.delete value).2.filter fun field => keeps field.1 := by
  obtain ⟨root, segments⟩ := path
  cases root with
  | ancestor index => rfl
  | value =>
    cases segments with
    | nil => rfl
    | cons field steps =>
      rw [delete_cons, delete_cons]
      cases hkeeps : keeps field with
      | true =>
        rw [Fields.get?_filter keeps hkeeps]
        split
        · rfl
        · exact (Fields.filter_erase hkeeps).symm
        · split
          · exact (Fields.filter_put hkeeps).symm
          · rfl
      | false =>
        rw [Fields.get?_filter_of_not hkeeps]
        change value.filter _ = _
        split
        · rfl
        · exact (Fields.filter_erase_of_not hkeeps).symm
        · rename_i child _ _ hchild
          have hmem : field ∈ value.names :=
            List.mem_map.mpr ⟨_, Fields.mem_of_get? hchild, rfl⟩
          split
          · exact (Fields.filter_put_of_not hkeeps hmem).symm
          · rfl

/-- A deletion drops the field that its path consists of, and no other one. -/
theorem names_delete (path : FieldPath) {value : Fields} (h : value.Distinct) :
    (path.delete value).2.names = value.names.filter fun name => path ≠ field name := by
  have hall : (∀ name, path ≠ field name) →
      value.names = value.names.filter fun name => path ≠ field name := by
    intro hne
    simp [hne]
  obtain ⟨root, segments⟩ := path
  cases root with
  | ancestor index => exact hall fun name heq => by cases heq
  | value =>
    cases segments with
    | nil => exact hall fun name heq => by cases heq
    | cons first steps =>
      rw [delete_cons]
      split
      · rename_i hnone
        rw [eq_comm, List.filter_eq_self]
        intro name hname
        have hne : name ≠ first := fun heq => Fields.get?_eq_none_iff.mp hnone (heq ▸ hname)
        simp [field, hne.symm]
      · rw [Fields.names_erase, List.Nodup.erase_eq_filter (Fields.distinct_iff.mp h)]
        refine List.filter_congr fun name _ => ?_
        simp [field, bne, Bool.beq_comm, Bool.beq_eq_decide_eq]
      · rename_i hchild
        have hmem : first ∈ value.names :=
          List.mem_map.mpr ⟨_, Fields.mem_of_get? hchild, rfl⟩
        have hnames := hall fun name heq => by cases heq
        split
        · rw [Fields.names_put_of_mem hmem]
          exact hnames
        · exact hnames

end FieldPath

namespace Fields

theorem deleteAll_cons (path : FieldPath) (paths : List FieldPath) (fields : Fields) :
    fields.deleteAll (path :: paths) = deleteAll paths (path.delete fields).2 := rfl

theorem deleteAll_filter (paths : List FieldPath) (keeps : String → Bool) (fields : Fields) :
    deleteAll paths (fields.filter fun field => keeps field.1) =
      (deleteAll paths fields).filter fun field => keeps field.1 := by
  induction paths generalizing fields with
  | nil => rfl
  | cons path paths ih => rw [deleteAll_cons, deleteAll_cons, path.delete_filter keeps, ih]

theorem distinct_delete (path : FieldPath) {fields : Fields} (h : fields.Distinct) :
    Distinct (path.delete fields).2 := by
  rw [distinct_iff, path.names_delete h]
  exact List.Nodup.filter _ h

/-- Deletions drop the fields that the paths consist of, and no other ones. -/
theorem names_deleteAll (paths : List FieldPath) {fields : Fields} (h : fields.Distinct) :
    names (deleteAll paths fields) =
      (names fields).filter fun name => FieldPath.field name ∉ paths := by
  induction paths generalizing fields with
  | nil => simp [deleteAll]
  | cons path paths ih =>
    rw [deleteAll_cons, ih (distinct_delete path h), path.names_delete h, List.filter_filter]
    refine List.filter_congr fun name _ => ?_
    simp [eq_comm, Bool.and_comm]

end Fields

end Rollout
