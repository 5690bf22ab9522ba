import Mathlib.Data.List.Nodup
import Rollout.Json.Basic
import Rollout.Proofs.Table

/-!
# Members of objects

What looking up, putting and erasing do to the members of an object, and that they go well with
leaving out members by their names.
-/

namespace Rollout.Fields

/-- The names of the members, in order. -/
def names (fields : Fields) : List String := fields.map Prod.fst

variable {fields : Fields} {name other : String} {value : Json}

@[simp] theorem names_nil : names [] = [] := rfl

@[simp] theorem names_cons (field : String × Json) :
    names (field :: fields) = field.1 :: names fields := rfl

@[simp] theorem names_append (more : Fields) :
    names (fields ++ more) = names fields ++ names more := List.map_append

instance : Decidable fields.Distinct := inferInstanceAs (Decidable (names fields).Nodup)

theorem distinct_iff : fields.Distinct ↔ (names fields).Nodup := Iff.rfl

theorem distinct_nil : Distinct [] := List.nodup_nil

/-! ## Looking up -/

@[simp] theorem get?_nil : get? [] name = none := rfl

theorem get?_cons (field : String × Json) : get? (field :: fields) name =
    if field.1 = name then some field.2 else get? fields name :=
  Table.lookup_cons field fields

theorem get?_append (more : Fields) :
    get? (fields ++ more) name = (get? fields name).or (get? more name) := List.lookup_append

theorem get?_option {α : Type} (found : Option α) (write : α → Json) :
    get? (found.map fun x => (other, write x)).toList name =
      if other = name then found.map write else none := by
  cases found with
  | none => simp
  | some x => simp [get?_cons]

theorem get?_ite {missing : Prop} [Decidable missing] (value : Json) :
    get? (if missing then [] else [(other, value)]) name =
      if other = name then if missing then none else some value else none := by
  by_cases h : missing
  · simp [h]
  · simp [h, get?_cons]

theorem get?_eq_none_iff : get? fields name = none ↔ name ∉ names fields := by
  induction fields with
  | nil => simp
  | cons field fields ih =>
    rw [get?_cons, names_cons, List.mem_cons, not_or, ← ih]
    by_cases h : field.1 = name
    · simp [h]
    · simp [h, Ne.symm h]

theorem mem_of_get? (h : get? fields name = some value) : (name, value) ∈ fields := by
  induction fields with
  | nil => cases h
  | cons field fields ih =>
    rw [get?_cons] at h
    split at h
    · rename_i heq
      obtain rfl := Option.some.inj h
      subst heq
      exact List.mem_cons_self
    · exact List.mem_cons_of_mem _ (ih h)

theorem get?_of_mem (h : fields.Distinct) (hmem : (name, value) ∈ fields) :
    get? fields name = some value := by
  induction fields with
  | nil => cases hmem
  | cons field fields ih =>
    have hnodup := List.nodup_cons.mp h
    rw [get?_cons]
    rcases List.mem_cons.mp hmem with rfl | hmem
    · exact if_pos rfl
    · have hname : name ∈ names fields := List.mem_map.mpr ⟨_, hmem, rfl⟩
      have hne : field.1 ≠ name := fun heq => hnodup.1 (heq ▸ hname)
      rw [if_neg hne, ih hnodup.2 hmem]

theorem get?_filter (keeps : String → Bool) (h : keeps name = true) :
    get? (fields.filter fun field => keeps field.1) name = get? fields name := by
  induction fields with
  | nil => rfl
  | cons field fields ih =>
    rw [List.filter_cons, get?_cons]
    split
    · rw [get?_cons, ih]
    · rename_i hdropped
      have hne : field.1 ≠ name := by
        rintro rfl
        exact hdropped h
      rw [ih, if_neg hne]

theorem get?_filter_of_not {keeps : String → Bool} (h : keeps name = false) :
    get? (fields.filter fun field => keeps field.1) name = none := by
  rw [get?_eq_none_iff]
  intro hmem
  obtain ⟨field, hfield, rfl⟩ := List.mem_map.mp hmem
  simp [h] at hfield

/-- The value of the last member of a name. -/
def last? (fields : Fields) (name : String) : Option Json := get? fields.reverse name

theorem last?_eq_none_iff : last? fields name = none ↔ name ∉ names fields := by
  rw [last?, get?_eq_none_iff, names, List.map_reverse, List.mem_reverse]
  exact Iff.rfl

/-! ## Putting and erasing -/

theorem put_of_not_mem (value : Json) (h : name ∉ names fields) :
    put name value fields = fields ++ [(name, value)] := by
  induction fields with
  | nil => rfl
  | cons field fields ih =>
    rw [names_cons, List.mem_cons, not_or] at h
    rw [put, if_neg (Ne.symm h.1), ih h.2, List.cons_append]

theorem names_option_sublist {α : Type} (found : Option α) (write : α → Json) :
    (names (found.map fun x => (name, write x)).toList).Sublist [name] := by
  cases found with
  | none => exact List.nil_sublist _
  | some x => exact List.Sublist.refl _

theorem names_ite_sublist {missing : Prop} [Decidable missing] (write : Json) :
    (names (if missing then [] else [(name, write)])).Sublist [name] := by
  split
  · exact List.nil_sublist _
  · exact List.Sublist.refl _

theorem names_put_of_mem (h : name ∈ names fields) :
    names (put name value fields) = names fields := by
  induction fields with
  | nil => cases h
  | cons field fields ih =>
    rw [put]
    split
    · rfl
    · rename_i hne
      rcases List.mem_cons.mp h with rfl | h
      · exact absurd rfl hne
      · rw [names_cons, ih h, names_cons]

theorem get?_put : get? (put name value fields) other =
    if name = other then some value else get? fields other := by
  induction fields with
  | nil => rw [put, get?_cons]
  | cons field fields ih =>
    rw [put]
    split
    · rename_i heq
      rw [get?_cons, get?_cons, heq]
      split <;> rfl
    · rename_i hne
      rw [get?_cons, get?_cons, ih]
      by_cases hfield : field.1 = other
      · have hother : name ≠ other := fun h => hne (hfield.trans h.symm)
        rw [if_pos hfield, if_pos hfield, if_neg hother]
      · rw [if_neg hfield, if_neg hfield]

theorem put_eq_self (h : get? fields name = some value) : put name value fields = fields := by
  induction fields with
  | nil => cases h
  | cons field fields ih =>
    rw [get?_cons] at h
    rw [put]
    split at h
    · rename_i heq
      obtain rfl := Option.some.inj h
      rw [if_pos heq]
    · rename_i hne
      rw [if_neg hne, ih h]

theorem distinct_put (h : fields.Distinct) : (put name value fields).Distinct := by
  by_cases hmem : name ∈ names fields
  · rw [distinct_iff, names_put_of_mem hmem]
    exact h
  · rw [put_of_not_mem value hmem, distinct_iff, names_append, names_cons, names_nil,
      List.nodup_append_comm, List.singleton_append, List.nodup_cons]
    exact ⟨hmem, h⟩

theorem names_erase (name : String) (fields : Fields) :
    names (erase name fields) = (names fields).erase name := by
  induction fields with
  | nil => rfl
  | cons field fields ih =>
    rw [erase, names_cons, List.erase_cons]
    by_cases h : field.1 = name
    · simp [h]
    · simp [h, ih]

theorem get?_erase_of_ne (h : name ≠ other) :
    get? (erase name fields) other = get? fields other := by
  induction fields with
  | nil => rfl
  | cons field fields ih =>
    rw [erase, get?_cons]
    split
    · rename_i heq
      rw [if_neg (heq ▸ h)]
    · rw [get?_cons, ih]

theorem names_filter (keeps : String → Bool) (fields : Fields) :
    names (fields.filter fun field => keeps field.1) = (names fields).filter keeps :=
  List.filter_map.symm

section Filter

variable {keeps : String → Bool}

theorem filter_put (h : keeps name = true) :
    (put name value fields).filter (fun field => keeps field.1) =
      put name value (fields.filter fun field => keeps field.1) := by
  induction fields with
  | nil => simp [put, h]
  | cons field fields ih =>
    rw [put, List.filter_cons]
    split
    · rename_i heq
      simp [heq, h, put]
    · rename_i hne
      rw [List.filter_cons, ih]
      split
      · rw [put, if_neg hne]
      · rfl

theorem filter_put_of_not (h : keeps name = false) (hmem : name ∈ names fields) :
    (put name value fields).filter (fun field => keeps field.1) =
      fields.filter fun field => keeps field.1 := by
  induction fields with
  | nil => cases hmem
  | cons field fields ih =>
    rw [put]
    split
    · rename_i heq
      simp [heq, h]
    · rename_i hne
      rcases List.mem_cons.mp hmem with rfl | hmem
      · exact absurd rfl hne
      · rw [List.filter_cons, List.filter_cons, ih hmem]

theorem filter_erase (h : keeps name = true) :
    (erase name fields).filter (fun field => keeps field.1) =
      erase name (fields.filter fun field => keeps field.1) := by
  induction fields with
  | nil => rfl
  | cons field fields ih =>
    rw [erase, List.filter_cons]
    split
    · rename_i heq
      simp [heq, h, erase]
    · rename_i hne
      rw [List.filter_cons, ih]
      split
      · rw [erase, if_neg hne]
      · rfl

theorem filter_erase_of_not (h : keeps name = false) :
    (erase name fields).filter (fun field => keeps field.1) =
      fields.filter fun field => keeps field.1 := by
  induction fields with
  | nil => rfl
  | cons field fields ih =>
    rw [erase]
    split
    · rename_i heq
      simp [heq, h]
    · rw [List.filter_cons, List.filter_cons, ih]

end Filter

end Rollout.Fields
