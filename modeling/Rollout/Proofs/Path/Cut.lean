import Rollout.Path.Resolve
import Rollout.Proofs.Json.Fields

/-!
# What a deletion leaves

What a path resolves to is cut out of its object or array, and nothing else is touched: neither
what stands before and after it there, nor what stands beside the path further up.
-/

namespace Rollout

namespace Fields

variable {fields before after : Fields} {name : String} {value : Json}

theorem get?_eq_some_iff : get? fields name = some value ↔
    ∃ before after, fields = before ++ (name, value) :: after ∧ name ∉ names before := by
  constructor
  · intro h
    induction fields with
    | nil => cases h
    | cons field fields ih =>
      rw [get?_cons] at h
      split at h
      · rename_i heq
        obtain rfl := Option.some.inj h
        subst heq
        exact ⟨[], fields, rfl, by simp⟩
      · rename_i hne
        obtain ⟨before, after, rfl, hbefore⟩ := ih h
        refine ⟨field :: before, after, rfl, ?_⟩
        rw [names_cons, List.mem_cons, not_or]
        exact ⟨Ne.symm hne, hbefore⟩
  · rintro ⟨before, after, rfl, hbefore⟩
    rw [get?_append, get?_eq_none_iff.mpr hbefore, get?_cons, if_pos rfl]
    rfl

theorem erase_append_cons (h : name ∉ names before) :
    erase name (before ++ (name, value) :: after) = before ++ after := by
  induction before with
  | nil => simp [erase]
  | cons field before ih =>
    rw [names_cons, List.mem_cons, not_or] at h
    rw [List.cons_append, erase, if_neg (Ne.symm h.1), ih h.2, List.cons_append]

theorem put_append_cons (h : name ∉ names before) (new : Json) :
    put name new (before ++ (name, value) :: after) = before ++ (name, new) :: after := by
  induction before with
  | nil => simp [put]
  | cons field before ih =>
    rw [names_cons, List.mem_cons, not_or] at h
    rw [List.cons_append, put, if_neg (Ne.symm h.1), ih h.2, List.cons_append]

end Fields

theorem getElem?_eq_some_iff_append {α : Type} {items : List α} {i : Nat} {x : α} :
    items[i]? = some x ↔ ∃ before after, items = before ++ x :: after ∧ before.length = i := by
  constructor
  · intro h
    obtain ⟨hi, rfl⟩ := List.getElem?_eq_some_iff.mp h
    refine ⟨items.take i, items.drop (i + 1), ?_, List.length_take_of_le (Nat.le_of_lt hi)⟩
    rw [List.getElem_cons_drop, List.take_append_drop]
  · rintro ⟨before, after, rfl, rfl⟩
    simp

namespace Json

/-- Cutting what some steps lead to out of a value: the one member or item goes, all that stands
before and after it in its object or array stays in order, and so does all that stands beside
each of the steps. -/
inductive Cut (found : Json) : List String → Json → Json → Prop where
  | member {name : String} {before after : Fields} (first : name ∉ before.names) :
    Cut found [name] (.object (before ++ (name, found) :: after)) (.object (before ++ after))
  | item {step : String} {before after : List Json}
    (index : Text.index? step = some before.length) :
    Cut found [step] (.array (before ++ found :: after)) (.array (before ++ after))
  | inMember {name : String} {steps : List String} {before after : Fields} {child left : Json}
    (first : name ∉ before.names) (cut : Cut found steps child left) :
    Cut found (name :: steps) (.object (before ++ (name, child) :: after))
      (.object (before ++ (name, left) :: after))
  | inItem {step : String} {steps : List String} {before after : List Json} {child left : Json}
    (index : Text.index? step = some before.length) (cut : Cut found steps child left) :
    Cut found (step :: steps) (.array (before ++ child :: after))
      (.array (before ++ left :: after))

variable {value child found left : Json} {step : String} {steps : List String}

theorem Cut.steps_ne_nil (h : Cut found steps value left) : steps ≠ [] := by
  cases h <;> exact List.cons_ne_nil _ _

/-! ## One step -/

section Step

variable {before after : Fields} {items rest : List Json}

theorem child?_member (h : step ∉ before.names) :
    (object (before ++ (step, child) :: after)).child? step = some child :=
  Fields.get?_eq_some_iff.mpr ⟨before, after, rfl, h⟩

theorem child?_item (h : Text.index? step = some items.length) :
    (array (items ++ child :: rest)).child? step = some child := by
  rw [child?, h, Option.bind_some]
  exact getElem?_eq_some_iff_append.mpr ⟨items, rest, rfl, rfl⟩

/-- A step leads to a member or to an item, with others before and after it. -/
theorem member_or_item_of_child? (h : value.child? step = some child) :
    (∃ before after, value = .object (before ++ (step, child) :: after) ∧
      step ∉ Fields.names before) ∨
    ∃ before after, value = .array (before ++ child :: after) ∧
      Text.index? step = some before.length := by
  cases value with
  | object members =>
    obtain ⟨before, after, rfl, hfirst⟩ := Fields.get?_eq_some_iff.mp h
    exact .inl ⟨before, after, rfl, hfirst⟩
  | array items =>
    obtain ⟨i, hi, hchild⟩ := Option.bind_eq_some_iff.mp h
    obtain ⟨before, after, rfl, rfl⟩ := getElem?_eq_some_iff_append.mp hchild
    exact .inr ⟨before, after, rfl, hi⟩
  | _ => cases h

theorem eraseChild_member (h : step ∉ before.names) :
    (object (before ++ (step, child) :: after)).eraseChild step = object (before ++ after) := by
  rw [eraseChild, Fields.erase_append_cons h]

theorem eraseChild_item (h : Text.index? step = some items.length) :
    (array (items ++ child :: rest)).eraseChild step = array (items ++ rest) := by
  simp only [eraseChild, h, List.eraseIdx_append_of_length_le (Nat.le_refl _), Nat.sub_self,
    List.eraseIdx_cons_zero]

theorem setChild_member (h : step ∉ before.names) :
    (object (before ++ (step, child) :: after)).setChild step left =
      object (before ++ (step, left) :: after) := by
  rw [setChild, Fields.put_append_cons h]

theorem setChild_item (h : Text.index? step = some items.length) :
    (array (items ++ child :: rest)).setChild step left = array (items ++ left :: rest) := by
  simp only [setChild, h, List.set_append_right _ _ (Nat.le_refl _), Nat.sub_self,
    List.set_cons_zero]

end Step

/-! ## All steps -/

theorem delete?_singleton :
    value.delete? [step] = (value.child? step).map fun child => (child, value.eraseChild step) :=
  rfl

theorem delete?_cons (h : steps ≠ []) :
    value.delete? (step :: steps) = (value.child? step).bind fun child =>
      (child.delete? steps).map fun cut => (cut.1, value.setChild step cut.2) := by
  obtain ⟨next, rest, rfl⟩ := List.exists_cons_of_ne_nil h
  rw [delete?.eq_def]
  cases hchild : value.child? step with
  | none => simp only [hchild, bind, Option.bind_none]
  | some child =>
    simp only [hchild, bind, Option.bind_some]
    cases child.delete? (next :: rest) <;> rfl

theorem cut_of_delete? (h : value.delete? steps = some (found, left)) :
    Cut found steps value left := by
  induction steps generalizing value left with
  | nil => cases h
  | cons step steps ih =>
    by_cases hsteps : steps = []
    · subst hsteps
      rw [delete?_singleton] at h
      obtain ⟨child, hchild, heq⟩ := Option.map_eq_some_iff.mp h
      obtain ⟨rfl, rfl⟩ := Prod.mk.inj heq
      rcases member_or_item_of_child? hchild with
        ⟨before, after, rfl, hfirst⟩ | ⟨before, after, rfl, hindex⟩
      · rw [eraseChild_member hfirst]
        exact .member hfirst
      · rw [eraseChild_item hindex]
        exact .item hindex
    · rw [delete?_cons hsteps] at h
      obtain ⟨child, hchild, h⟩ := Option.bind_eq_some_iff.mp h
      obtain ⟨⟨deleted, inner⟩, hdelete, heq⟩ := Option.map_eq_some_iff.mp h
      obtain ⟨rfl, rfl⟩ := Prod.mk.inj heq
      have hcut := ih hdelete
      rcases member_or_item_of_child? hchild with
        ⟨before, after, rfl, hfirst⟩ | ⟨before, after, rfl, hindex⟩
      · rw [setChild_member hfirst]
        exact .inMember hfirst hcut
      · rw [setChild_item hindex]
        exact .inItem hindex hcut

theorem delete?_of_cut (h : Cut found steps value left) :
    value.delete? steps = some (found, left) := by
  induction h with
  | member hfirst =>
    rw [delete?_singleton, child?_member hfirst, Option.map_some, eraseChild_member hfirst]
  | item hindex =>
    rw [delete?_singleton, child?_item hindex, Option.map_some, eraseChild_item hindex]
  | inMember hfirst hcut ih =>
    rw [delete?_cons hcut.steps_ne_nil, child?_member hfirst, Option.bind_some, ih,
      Option.map_some, setChild_member hfirst]
  | inItem hindex hcut ih =>
    rw [delete?_cons hcut.steps_ne_nil, child?_item hindex, Option.bind_some, ih,
      Option.map_some, setChild_item hindex]

/-- A deletion cuts what it deletes out of the value, and whatever can be cut out is deleted. -/
theorem delete?_eq_some_iff :
    value.delete? steps = some (found, left) ↔ Cut found steps value left :=
  ⟨cut_of_delete?, delete?_of_cut⟩

theorem Cut.exists_object {members : Fields} (h : Cut found steps (.object members) left) :
    ∃ rest, left = .object rest := by
  cases h <;> exact ⟨_, rfl⟩

/-- A deletion finds what the steps lead to. -/
theorem map_fst_delete? (value : Json) (step : String) (steps : List String) :
    (value.delete? (step :: steps)).map Prod.fst = value.at? (step :: steps) := by
  induction steps generalizing value step with
  | nil =>
    rw [delete?_singleton, at?]
    cases value.child? step <;> rfl
  | cons next steps ih =>
    rw [delete?_cons (List.cons_ne_nil next steps), at?]
    cases value.child? step with
    | none => rfl
    | some child =>
      rw [Option.bind_some, Option.bind_some, ← ih child next, Option.map_map]
      rfl

end Json

namespace FieldPath

/-- Deleting agrees with resolving: what a path resolves to in an entity is deleted from its
value and cut out of it, and if it resolves to nothing, or to a part of an ancestor, nothing is
deleted. -/
theorem delete_agrees_with_resolve (path : FieldPath) (entity : Entity) :
    match path.root, path.resolve? entity with
    | .value, some found =>
      ∃ left, path.delete entity.value = (some found, left) ∧
        Json.Cut found path.segments (.object entity.value) (.object left)
    | .value, none => path.delete entity.value = (none, entity.value)
    | .ancestor _, _ => path.delete entity.value = (none, entity.value) := by
  obtain ⟨root, segments⟩ := path
  cases root with
  | ancestor index => rfl
  | value =>
    cases segments with
    | nil => rfl
    | cons step steps =>
      have hfound := Json.map_fst_delete? (.object entity.value) step steps
      simp only [resolve?, start?, Option.bind_some, ← hfound, delete]
      cases hdelete : (Json.object entity.value).delete? (step :: steps) with
      | none => rfl
      | some pair =>
        obtain ⟨found, left⟩ := pair
        have hcut := Json.delete?_eq_some_iff.mp hdelete
        obtain ⟨rest, rfl⟩ := hcut.exists_object
        exact ⟨rest, rfl, hcut⟩

end FieldPath

end Rollout
