import Rollout.Path.Resolve
import Rollout.Proofs.Json.Fields

/-!
# Values without what paths lead to

All that some paths lead to is taken out of a value at once: each path is followed in the value
as it is given, whatever the others lead to.
-/

namespace Rollout

namespace Json

/-- What some paths have left to go once they have gone into a child. The path that ends there
has nothing left. -/
def stepsInto (leads : String → Bool) (paths : List (List String)) : List (List String) :=
  paths.filterMap fun
    | [] => none
    | step :: steps => if leads step then some steps else none

/-- Whether a step leads to the item at an index. -/
def isIndex (i : Nat) (step : String) : Bool := Text.index? step = some i

mutual

/-- The value without all that some paths lead to in it; what is left keeps its order. -/
def without (paths : List (List String)) : Json → Json
  | .array items => .array (itemsWithout paths 0 items)
  | .object members => .object (membersWithout paths members)
  | other => other

/-- Of items from an index on, those that no path leads to, without what the paths lead to in
them. -/
def itemsWithout (paths : List (List String)) (i : Nat) : List Json → List Json
  | [] => []
  | item :: items =>
    let inner := stepsInto (isIndex i) paths
    if [] ∈ inner then itemsWithout paths (i + 1) items
    else item.without inner :: itemsWithout paths (i + 1) items

def membersWithout (paths : List (List String)) : Fields → Fields
  | [] => []
  | (name, value) :: members =>
    let inner := stepsInto (fun step => step = name) paths
    if [] ∈ inner then membersWithout paths members
    else (name, value.without inner) :: membersWithout paths members

end

variable {paths : List (List String)} {leads : String → Bool} {step : String}
  {steps : List String}

/-! ## The paths into a child -/

theorem mem_stepsInto :
    steps ∈ stepsInto leads paths ↔ ∃ step, leads step = true ∧ step :: steps ∈ paths := by
  rw [stepsInto, List.mem_filterMap]
  constructor
  · rintro ⟨path, hpath, hsteps⟩
    cases path with
    | nil => cases hsteps
    | cons step rest =>
      obtain ⟨hleads, hrest⟩ := Option.ite_none_right_eq_some.mp hsteps
      obtain rfl := Option.some.inj hrest
      exact ⟨step, hleads, hpath⟩
  · rintro ⟨step, hleads, hpath⟩
    exact ⟨step :: steps, hpath, if_pos hleads⟩

theorem mem_stepsInto_congr {others : List (List String)} (leads : String → Bool)
    (h : ∀ step steps, step :: steps ∈ paths ↔ step :: steps ∈ others) (steps : List String) :
    steps ∈ stepsInto leads paths ↔ steps ∈ stepsInto leads others := by
  rw [mem_stepsInto, mem_stepsInto]
  simp only [h]

theorem stepsInto_concat (paths : List (List String)) (step : String) (steps : List String) :
    stepsInto leads (paths ++ [step :: steps]) =
      stepsInto leads paths ++ if leads step then [steps] else [] := by
  rw [stepsInto, List.filterMap_append, ← stepsInto]
  cases h : leads step <;> simp [h]

/-! ## Members that are left -/

theorem membersWithout_append (before after : Fields) :
    membersWithout paths (before ++ after) =
      membersWithout paths before ++ membersWithout paths after := by
  induction before with
  | nil => rfl
  | cons member before ih =>
    rw [List.cons_append, membersWithout, membersWithout, ih]
    split
    · rfl
    · rw [List.cons_append]

theorem names_membersWithout_sublist (members : Fields) :
    (Fields.names (membersWithout paths members)).Sublist members.names := by
  induction members with
  | nil => exact .refl _
  | cons member members ih =>
    rw [membersWithout, Fields.names_cons]
    split
    · exact ih.cons _
    · exact ih.cons_cons _

/-- A path to a name that is not there leaves all members. -/
theorem membersWithout_concat_of_not_mem {members : Fields} (h : step ∉ members.names) :
    membersWithout (paths ++ [step :: steps]) members = membersWithout paths members := by
  induction members with
  | nil => rfl
  | cons member members ih =>
    rw [Fields.names_cons, List.mem_cons, not_or] at h
    rw [membersWithout, membersWithout, ih h.2, stepsInto_concat]
    simp [h.1]

/-- One more path to a member concerns no other member. -/
theorem membersWithout_concat_split {before after : Fields} (child : Json)
    (hbefore : step ∉ before.names) (hafter : step ∉ after.names) :
    membersWithout (paths ++ [step :: steps]) (before ++ (step, child) :: after) =
      membersWithout paths before ++
        (if [] ∈ stepsInto (fun other => other = step) paths ++ [steps] then []
          else [(step, child.without (stepsInto (fun other => other = step) paths ++ [steps]))]) ++
        membersWithout paths after := by
  rw [membersWithout_append, membersWithout, membersWithout_concat_of_not_mem hbefore,
    membersWithout_concat_of_not_mem hafter, stepsInto_concat, if_pos (decide_eq_true rfl)]
  split <;> simp

/-! ## Items that are left -/

theorem isIndex_eq_false {i j : Nat} (hstep : Text.index? step = some j) (h : i ≠ j) :
    isIndex i step = false := by
  rw [isIndex, hstep, decide_eq_false_iff_not, Option.some.injEq]
  exact Ne.symm h

theorem itemsWithout_append (i : Nat) (before after : List Json) :
    itemsWithout paths i (before ++ after) =
      itemsWithout paths i before ++ itemsWithout paths (i + before.length) after := by
  induction before generalizing i with
  | nil => rfl
  | cons item before ih =>
    have hlength : i + (item :: before).length = i + 1 + before.length := by
      rw [List.length_cons]
      omega
    rw [List.cons_append, itemsWithout, itemsWithout, ih, hlength]
    split
    · rfl
    · rw [List.cons_append]

theorem length_itemsWithout_le (i : Nat) (items : List Json) :
    (itemsWithout paths i items).length ≤ items.length := by
  induction items generalizing i with
  | nil => exact Nat.le_refl _
  | cons item items ih =>
    have hrest := ih (i + 1)
    rw [itemsWithout]
    split
    · rw [List.length_cons]
      omega
    · rw [List.length_cons, List.length_cons]
      omega

/-- Items that no path leads to are all left. -/
theorem length_itemsWithout (i : Nat) {items : List Json}
    (h : ∀ j, i ≤ j → j < i + items.length → [] ∉ stepsInto (isIndex j) paths) :
    (itemsWithout paths i items).length = items.length := by
  induction items generalizing i with
  | nil => rfl
  | cons item items ih =>
    rw [List.length_cons] at h
    have hfirst := h i (by omega) (by omega)
    have hrest := ih (i + 1) fun j hi hj => h j (by omega) (by omega)
    rw [itemsWithout, if_neg hfirst, List.length_cons, hrest, List.length_cons]

/-- A path to an index at which there is no item leaves all items. -/
theorem itemsWithout_concat_of_not_isIndex (i : Nat) {items : List Json}
    (h : ∀ j, i ≤ j → j < i + items.length → isIndex j step = false) :
    itemsWithout (paths ++ [step :: steps]) i items = itemsWithout paths i items := by
  induction items generalizing i with
  | nil => rfl
  | cons item items ih =>
    rw [List.length_cons] at h
    have hfirst := h i (by omega) (by omega)
    have hrest := ih (i + 1) fun j hi hj => h j (by omega) (by omega)
    have hinner : stepsInto (isIndex i) (paths ++ [step :: steps]) = stepsInto (isIndex i) paths := by
      rw [stepsInto_concat, hfirst]
      simp
    rw [itemsWithout, itemsWithout, hrest, hinner]

/-- One more path to an item concerns no other item. -/
theorem itemsWithout_concat_split {before after : List Json} (child : Json)
    (hindex : Text.index? step = some before.length) :
    itemsWithout (paths ++ [step :: steps]) 0 (before ++ child :: after) =
      itemsWithout paths 0 before ++
        (if [] ∈ stepsInto (isIndex before.length) paths ++ [steps] then []
          else [child.without (stepsInto (isIndex before.length) paths ++ [steps])]) ++
        itemsWithout paths (before.length + 1) after := by
  have hbefore : itemsWithout (paths ++ [step :: steps]) 0 before = itemsWithout paths 0 before :=
    itemsWithout_concat_of_not_isIndex 0 fun i _ hi => isIndex_eq_false hindex (by omega)
  have hafter : itemsWithout (paths ++ [step :: steps]) (before.length + 1) after =
      itemsWithout paths (before.length + 1) after :=
    itemsWithout_concat_of_not_isIndex _ fun i hi _ => isIndex_eq_false hindex (by omega)
  have hstep : isIndex before.length step = true := decide_eq_true hindex
  rw [itemsWithout_append, Nat.zero_add, itemsWithout, hbefore, hafter, stepsInto_concat,
    if_pos hstep]
  split <;> simp

/-! ## Which paths matter -/

mutual

theorem without_nil : ∀ value : Json, value.without [] = value
  | .null => rfl
  | .bool _ => rfl
  | .number _ => rfl
  | .string _ => rfl
  | .array items => by rw [without, itemsWithout_nil 0 items]
  | .object members => by rw [without, membersWithout_nil members]

theorem itemsWithout_nil : ∀ (i : Nat) (items : List Json), itemsWithout [] i items = items
  | _, [] => rfl
  | i, item :: items => by
    have hinner : stepsInto (isIndex i) [] = [] := rfl
    rw [itemsWithout, hinner, itemsWithout_nil (i + 1) items, without_nil item]
    simp

theorem membersWithout_nil : ∀ members : Fields, membersWithout [] members = members
  | [] => rfl
  | (name, value) :: members => by
    have hinner : stepsInto (fun step => step = name) [] = [] := rfl
    rw [membersWithout, hinner, membersWithout_nil members, without_nil value]
    simp

end

mutual

/-- What is left depends on which paths are there, and not on their order or number. -/
theorem without_congr : ∀ (value : Json) {paths others : List (List String)},
    (∀ step steps, step :: steps ∈ paths ↔ step :: steps ∈ others) →
      value.without paths = value.without others
  | .null, _, _, _ => rfl
  | .bool _, _, _, _ => rfl
  | .number _, _, _, _ => rfl
  | .string _, _, _, _ => rfl
  | .array items, _, _, h => by rw [without, without, itemsWithout_congr items 0 h]
  | .object members, _, _, h => by rw [without, without, membersWithout_congr members h]

theorem itemsWithout_congr : ∀ (items : List Json) (i : Nat) {paths others : List (List String)},
    (∀ step steps, step :: steps ∈ paths ↔ step :: steps ∈ others) →
      itemsWithout paths i items = itemsWithout others i items
  | [], _, _, _, _ => rfl
  | item :: items, i, paths, others, h => by
    have hinner := mem_stepsInto_congr (isIndex i) h
    have hitem := without_congr item fun step steps => hinner (step :: steps)
    rw [itemsWithout, itemsWithout, itemsWithout_congr items (i + 1) h, hitem]
    simp only [hinner []]

theorem membersWithout_congr : ∀ (members : Fields) {paths others : List (List String)},
    (∀ step steps, step :: steps ∈ paths ↔ step :: steps ∈ others) →
      membersWithout paths members = membersWithout others members
  | [], _, _, _ => rfl
  | (name, value) :: members, paths, others, h => by
    have hinner := mem_stepsInto_congr (fun step => step = name) h
    have hvalue := without_congr value fun step steps => hinner (step :: steps)
    rw [membersWithout, membersWithout, membersWithout_congr members h, hvalue]
    simp only [hinner []]

end

end Json

end Rollout
