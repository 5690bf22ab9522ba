import Rollout.Element.Permitted
import Rollout.Proofs.Json.Tidy
import Rollout.Proofs.Path.Cut
import Rollout.Proofs.Path.Without

/-!
# Deleting at once

Paths are deleted one after the other, and each is followed in what the ones before it have left.
That is the same as deleting at once all that the paths lead to in the value as it was given,
unless one of them names an item of an array and a later one leads to an item that has moved up
by then.
-/

namespace Rollout

namespace Json

/-- A path disturbs a later one: it leads to an item of an array behind which others move up,
and the later one goes to that item or to one behind it. -/
def disturbs : Json → List String → List String → Bool
  | .object members, step :: earlier, other :: later =>
    step = other && (Fields.get? members step).any fun child => child.disturbs earlier later
  | .array items, step :: earlier, other :: later =>
    match Text.index? step, Text.index? other with
    | some i, some j =>
      if earlier = [] then decide (i ≤ j ∧ j < items.length ∧ i + 1 < items.length)
      else i = j && items[i]?.any fun child => child.disturbs earlier later
    | _, _ => false
  | _, _, _ => false

/-- What a deletion leaves of a value. -/
def deleted (value : Json) (steps : List String) : Json :=
  ((value.delete? steps).map Prod.snd).getD value

variable {paths : List (List String)} {step : String} {steps : List String}

/-! ## What a deletion leaves -/

section Deleted

variable {value child : Json}

theorem deleted_of_child?_eq_none (h : value.child? step = none) :
    value.deleted (step :: steps) = value := by
  have hnone : value.delete? (step :: steps) = none := by
    by_cases hsteps : steps = []
    · rw [hsteps, delete?_singleton, h, Option.map_none]
    · rw [delete?_cons hsteps, h, Option.bind_none]
  rw [deleted, hnone, Option.map_none, Option.getD_none]

/-- A deletion puts what it leaves of a child in its place, or nothing if it ends there. -/
theorem deleted_of_child? (h : value.child? step = some child) :
    value.deleted (step :: steps) =
      if steps = [] then value.eraseChild step else value.setChild step (child.deleted steps) := by
  split
  · rename_i hsteps
    rw [hsteps, deleted, delete?_singleton, h]
    rfl
  · rename_i hsteps
    have hsame : value.setChild step child = value := by
      rcases member_or_item_of_child? h with
        ⟨before, after, rfl, hfirst⟩ | ⟨before, after, rfl, hindex⟩
      · exact setChild_member hfirst
      · exact setChild_item hindex
    rw [deleted, delete?_cons hsteps, h, Option.bind_some, deleted]
    cases child.delete? steps with
    | none => exact hsame.symm
    | some cut => rfl

end Deleted

/-! ## One deletion after many at once -/

/-- A path to a name that is not there deletes nothing. -/
theorem deleted_without_of_no_member {members : Fields} (h : step ∉ members.names) :
    ((object members).without paths).deleted (step :: steps) =
      (object members).without (paths ++ [step :: steps]) := by
  have hnone : (object (membersWithout paths members)).child? step = none :=
    Fields.get?_eq_none_iff.mpr fun hmem => h ((names_membersWithout_sublist members).subset hmem)
  rw [without, without, deleted_of_child?_eq_none hnone, membersWithout_concat_of_not_mem h]

section Member

variable {before after : Fields} {child : Json}

/-- If a path before leads to a member, then a path to or through it deletes nothing. -/
theorem deleted_without_gone (hbefore : step ∉ before.names) (hafter : step ∉ after.names)
    (hinner : [] ∈ stepsInto (fun other => other = step) paths) :
    ((object (before ++ (step, child) :: after)).without paths).deleted (step :: steps) =
      (object (before ++ (step, child) :: after)).without (paths ++ [step :: steps]) := by
  have hnone : (object (membersWithout paths before ++ membersWithout paths after)).child?
      step = none := by
    apply Fields.get?_eq_none_iff.mpr
    rw [Fields.names_append, List.mem_append, not_or]
    exact ⟨fun hmem => hbefore ((names_membersWithout_sublist before).subset hmem),
      fun hmem => hafter ((names_membersWithout_sublist after).subset hmem)⟩
  rw [without, without, membersWithout_concat_split child hbefore hafter, membersWithout_append,
    membersWithout, if_pos hinner, if_pos (List.mem_append_left _ hinner),
    deleted_of_child?_eq_none hnone, List.append_nil]

/-- A member that no path before leads to is still there. -/
theorem deleted_without_member (hbefore : step ∉ before.names) (hafter : step ∉ after.names)
    (hinner : [] ∉ stepsInto (fun other => other = step) paths)
    (hchild : (child.without (stepsInto (fun other => other = step) paths)).deleted steps =
      child.without (stepsInto (fun other => other = step) paths ++ [steps])) :
    ((object (before ++ (step, child) :: after)).without paths).deleted (step :: steps) =
      (object (before ++ (step, child) :: after)).without (paths ++ [step :: steps]) := by
  have hplace : step ∉ Fields.names (membersWithout paths before) := fun hmem =>
    hbefore ((names_membersWithout_sublist before).subset hmem)
  rw [without, without, membersWithout_concat_split child hbefore hafter, membersWithout_append,
    membersWithout, if_neg hinner, deleted_of_child? (child?_member hplace), hchild]
  split
  · rename_i hsteps
    rw [eraseChild_member hplace, hsteps, if_pos (by simp), List.append_nil]
  · rename_i hsteps
    have hnext : [] ∉ stepsInto (fun other => other = step) paths ++ [steps] := by
      simp [hinner, Ne.symm hsteps]
    rw [setChild_member hplace, if_neg hnext, List.append_assoc, List.singleton_append]

end Member

/-- A path to an index at which there is no item deletes nothing. -/
theorem deleted_without_of_no_item {items : List Json}
    (h : ∀ j, Text.index? step = some j → items.length ≤ j) :
    ((array items).without paths).deleted (step :: steps) =
      (array items).without (paths ++ [step :: steps]) := by
  have hle : (itemsWithout paths 0 items).length ≤ items.length := length_itemsWithout_le 0 items
  have hnone : (array (itemsWithout paths 0 items)).child? step = none := by
    rw [child?, Option.bind_eq_none_iff]
    intro j hj
    have hj := h j hj
    exact List.getElem?_eq_none_iff.mpr (by omega)
  have hsame : itemsWithout (paths ++ [step :: steps]) 0 items = itemsWithout paths 0 items := by
    apply itemsWithout_concat_of_not_isIndex
    intro j _ hj
    rw [isIndex, decide_eq_false_iff_not]
    intro hindex
    have hj := h j hindex
    omega
  rw [without, without, deleted_of_child?_eq_none hnone, hsame]

section Item

variable {before after : List Json} {child : Json}

/-- If a path before leads to the last item, and none to an item before it, then a path to or
through this item deletes nothing. -/
theorem deleted_without_last (hindex : Text.index? step = some before.length)
    (hbefore : ∀ i < before.length, [] ∉ stepsInto (isIndex i) paths)
    (hinner : [] ∈ stepsInto (isIndex before.length) paths) :
    ((array (before ++ [child])).without paths).deleted (step :: steps) =
      (array (before ++ [child])).without (paths ++ [step :: steps]) := by
  have hkept : (itemsWithout paths 0 before).length = before.length :=
    length_itemsWithout 0 fun i _ hi => hbefore i (by omega)
  have hnone : (array (itemsWithout paths 0 before)).child? step = none := by
    rw [child?, hindex, Option.bind_some, List.getElem?_eq_none_iff]
    omega
  have hlast : itemsWithout paths before.length [child] = [] := by
    rw [itemsWithout, if_pos hinner, itemsWithout]
  rw [without, without, itemsWithout_concat_split child hindex, itemsWithout_append, Nat.zero_add,
    hlast, if_pos (List.mem_append_left _ hinner), itemsWithout, List.append_nil,
    List.append_nil, deleted_of_child?_eq_none hnone]

/-- If no path before leads to an item or to one before it, then that item is still at its
index. -/
theorem deleted_without_item (hindex : Text.index? step = some before.length)
    (hbefore : ∀ i < before.length, [] ∉ stepsInto (isIndex i) paths)
    (hinner : [] ∉ stepsInto (isIndex before.length) paths)
    (hchild : (child.without (stepsInto (isIndex before.length) paths)).deleted steps =
      child.without (stepsInto (isIndex before.length) paths ++ [steps])) :
    ((array (before ++ child :: after)).without paths).deleted (step :: steps) =
      (array (before ++ child :: after)).without (paths ++ [step :: steps]) := by
  have hkept : (itemsWithout paths 0 before).length = before.length :=
    length_itemsWithout 0 fun i _ hi => hbefore i (by omega)
  have hplace : Text.index? step = some (itemsWithout paths 0 before).length := by
    rw [hkept, hindex]
  rw [without, without, itemsWithout_concat_split child hindex, itemsWithout_append, Nat.zero_add,
    itemsWithout, if_neg hinner, deleted_of_child? (child?_item hplace), hchild]
  split
  · rename_i hsteps
    rw [eraseChild_item hplace, hsteps, if_pos (by simp), List.append_nil]
  · rename_i hsteps
    have hnext : [] ∉ stepsInto (isIndex before.length) paths ++ [steps] := by
      simp [hinner, Ne.symm hsteps]
    rw [setChild_item hplace, if_neg hnext, List.append_assoc, List.singleton_append]

end Item

/-- A path that leads to an item, and does not disturb a later one that goes to it or to one
behind it, leads to the last item. -/
theorem length_le_of_not_disturbs {items : List Json} {i j : Nat} {other : String}
    (hother : isIndex i other = true) (hindex : Text.index? step = some j) (hij : i ≤ j)
    (hj : j < items.length) (h : (array items).disturbs [other] (step :: steps) = false) :
    items.length ≤ i + 1 := by
  have hi : Text.index? other = some i := of_decide_eq_true hother
  simp only [disturbs, hi, hindex, if_true, decide_eq_false_iff_not] at h
  omega

theorem not_disturbs_in_item {items : List Json} {j : Nat} {other : String} {child : Json}
    {earlier : List String} (hother : isIndex j other = true)
    (hindex : Text.index? step = some j) (hget : items[j]? = some child)
    (hearlier : earlier ≠ [])
    (h : (array items).disturbs (other :: earlier) (step :: steps) = false) :
    child.disturbs earlier steps = false := by
  have hi : Text.index? other = some j := of_decide_eq_true hother
  simpa only [disturbs, hi, hindex, if_neg hearlier, decide_true, Bool.true_and, hget,
    Option.any_some] using h

/-- A deletion after others is the same as all of them at once, if none of those disturbs it. -/
theorem deleted_without {value : Json} (hvalue : value.Tidy)
    (h : ∀ earlier ∈ paths, value.disturbs earlier steps = false) :
    (value.without paths).deleted steps = value.without (paths ++ [steps]) := by
  induction steps generalizing value paths with
  | nil =>
    apply without_congr
    intro step steps
    simp
  | cons step steps ih =>
    cases value with
    | object members =>
      cases hget : Fields.get? members step with
      | none => exact deleted_without_of_no_member (Fields.get?_eq_none_iff.mp hget)
      | some child =>
        have hmem := Fields.mem_of_get? hget
        have hdistinct := hvalue.1
        obtain ⟨before, after, rfl, hbefore⟩ := Fields.get?_eq_some_iff.mp hget
        rw [Fields.distinct_iff, Fields.names_append, List.nodup_append] at hdistinct
        have hafter : step ∉ Fields.names after := (List.nodup_cons.mp hdistinct.2.1).1
        by_cases hinner : [] ∈ stepsInto (fun other => other = step) paths
        · exact deleted_without_gone hbefore hafter hinner
        · apply deleted_without_member hbefore hafter hinner
          apply ih (tidyMembers_iff.mp hvalue.2 _ hmem)
          intro earlier hearlier
          obtain ⟨other, hother, hpath⟩ := mem_stepsInto.mp hearlier
          obtain rfl := of_decide_eq_true hother
          have hundisturbed := h _ hpath
          simpa [disturbs, hget] using hundisturbed
    | array items =>
      by_cases hitem : ∃ j child, Text.index? step = some j ∧ items[j]? = some child
      · obtain ⟨j, child, hindex, hget⟩ := hitem
        have hmem := List.mem_of_getElem? hget
        have hj : j < items.length := (List.getElem?_eq_some_iff.mp hget).1
        have hlast : ∀ i ≤ j, [] ∈ stepsInto (isIndex i) paths → items.length ≤ i + 1 := by
          intro i hi hinner
          obtain ⟨other, hother, hpath⟩ := mem_stepsInto.mp hinner
          exact length_le_of_not_disturbs hother hindex hi hj (h _ hpath)
        obtain ⟨before, after, rfl, rfl⟩ := getElem?_eq_some_iff_append.mp hget
        rw [List.length_append, List.length_cons] at hlast
        have hbefore : ∀ i < before.length, [] ∉ stepsInto (isIndex i) paths := by
          intro i hi hinner
          have hend := hlast i (by omega) hinner
          omega
        by_cases hinner : [] ∈ stepsInto (isIndex before.length) paths
        · have hend := hlast before.length (Nat.le_refl _) hinner
          obtain rfl : after = [] := List.length_eq_zero_iff.mp (by omega)
          exact deleted_without_last hindex hbefore hinner
        · apply deleted_without_item hindex hbefore hinner
          apply ih (tidyItems_iff.mp hvalue _ hmem)
          intro earlier hearlier
          obtain ⟨other, hother, hpath⟩ := mem_stepsInto.mp hearlier
          have hne : earlier ≠ [] := fun heq => hinner (heq ▸ hearlier)
          exact not_disturbs_in_item hother hindex hget hne (h _ hpath)
      · apply deleted_without_of_no_item
        intro j hindex
        apply List.getElem?_eq_none_iff.mp
        cases hget : items[j]? with
        | none => rfl
        | some child => exact absurd ⟨j, child, hindex, hget⟩ hitem
    | _ => exact deleted_of_child?_eq_none rfl

/-- Paths of which none disturbs a later one are deleted one after the other as if at once. -/
theorem foldl_deleted {value : Json} (hvalue : value.Tidy) (done : List (List String))
    (h : (done ++ paths).Pairwise fun earlier later => value.disturbs earlier later = false) :
    paths.foldl deleted (value.without done) = value.without (done ++ paths) := by
  induction paths generalizing done with
  | nil => rw [List.foldl_nil, List.append_nil]
  | cons path paths ih =>
    have hpath : ∀ earlier ∈ done, value.disturbs earlier path = false := fun earlier hearlier =>
      (List.pairwise_append.mp h).2.2 earlier hearlier path List.mem_cons_self
    rw [← List.singleton_append, ← List.append_assoc] at h
    rw [List.foldl_cons, deleted_without hvalue hpath, ih (done ++ [path]) h, List.append_assoc,
      List.singleton_append]

end Json

namespace Fields

theorem object_delete {path : FieldPath} (h : path.root = .value) (fields : Fields) :
    Json.object (path.delete fields).2 = (Json.object fields).deleted path.segments := by
  rw [FieldPath.delete, h, Json.deleted]
  cases hdelete : (Json.object fields).delete? path.segments with
  | none => rfl
  | some cut =>
    obtain ⟨found, left⟩ := cut
    obtain ⟨rest, rfl⟩ := (Json.delete?_eq_some_iff.mp hdelete).exists_object
    rfl

theorem object_deleteAll {paths : List FieldPath} (h : ∀ path ∈ paths, path.root = .value)
    (fields : Fields) : Json.object (fields.deleteAll paths) =
      (paths.map FieldPath.segments).foldl Json.deleted (.object fields) := by
  induction paths generalizing fields with
  | nil => rfl
  | cons path paths ih =>
    have hpath := object_delete (h path List.mem_cons_self) fields
    have hrest := ih (fun later hlater => h later (List.mem_cons_of_mem _ hlater))
      (path.delete fields).2
    rw [List.map_cons, List.foldl_cons, ← hpath, ← hrest]
    rfl

/-- No path of a list disturbs a later one in some fields. -/
def Undisturbed (fields : Fields) (paths : List FieldPath) : Prop :=
  paths.Pairwise fun earlier later =>
    (Json.object fields).disturbs earlier.segments later.segments = false

instance (fields : Fields) (paths : List FieldPath) : Decidable (fields.Undisturbed paths) :=
  inferInstanceAs (Decidable (List.Pairwise _ _))

theorem object_withoutIgnored {fields : Fields} (hfields : (Json.object fields).Tidy)
    {ignored : List FieldPath} (hroots : ∀ path ∈ ignored, path.root = .value)
    (h : fields.Undisturbed ignored) (elemId : ElemId) :
    Json.object (fields.withoutIgnored elemId ignored LeftOut.nothing) =
      (Json.object fields).without (ignored.map FieldPath.segments) := by
  have hall : fields.withoutIgnored elemId ignored LeftOut.nothing = fields.deleteAll ignored := by
    rw [withoutIgnored, List.filter_eq_self]
    intro field _
    rfl
  have hpairs : (ignored.map FieldPath.segments).Pairwise fun earlier later =>
      (Json.object fields).disturbs earlier later = false := List.pairwise_map.mpr h
  have hfold := Json.foldl_deleted hfields [] hpairs
  rw [Json.without_nil, List.nil_append] at hfold
  rw [hall, object_deleteAll hroots, hfold]

/-- Ignored paths of which none disturbs a later one are dropped as they are named: what is left
are the fields without all that the paths lead to in them as they were given, whatever the order
of the paths and however often one of them is given. -/
theorem ignored_dropped_at_once {fields : Fields} (hfields : (Json.object fields).Tidy)
    {ignored : List FieldPath} (hroots : ∀ path ∈ ignored, path.root = .value)
    (h : fields.Undisturbed ignored) (elemId : ElemId) :
    Json.object (fields.withoutIgnored elemId ignored LeftOut.nothing) =
        (Json.object fields).without (ignored.map FieldPath.segments) ∧
      ∀ other : List FieldPath, (∀ path, path ∈ other ↔ path ∈ ignored) →
        fields.Undisturbed other →
          fields.withoutIgnored elemId other LeftOut.nothing =
            fields.withoutIgnored elemId ignored LeftOut.nothing := by
  have hignored := object_withoutIgnored hfields hroots h elemId
  refine ⟨hignored, fun other hsame hother => ?_⟩
  have hotherRoots : ∀ path ∈ other, path.root = .value := fun path hpath =>
    hroots path ((hsame path).mp hpath)
  have hleft := object_withoutIgnored hfields hotherRoots hother elemId
  have hcongr : (Json.object fields).without (other.map FieldPath.segments) =
      (Json.object fields).without (ignored.map FieldPath.segments) := by
    apply Json.without_congr
    intro step steps
    simp only [List.mem_map, hsame]
  rw [hcongr, ← hignored] at hleft
  exact Json.object.inj hleft

/-- A path into the fields themselves. -/
def inFields (segments : List String) : FieldPath := ⟨.value, segments⟩

/-- Fields with a list of letters, and a table of them. -/
def lettered (letters : List String) : Fields :=
  [("letters", .array (letters.map Json.string)), ("name", .string "x"),
    ("table", .object [("rows", .array [.array [.string "k", .string "l"],
      .array [.string "m", .string "n", .string "o"]])])]

/-- Paths into the later items come before those into the earlier ones, also where the index is
written in another way; a field is named again, and once more with a part of it. -/
def lateItemsFirst : List FieldPath :=
  [inFields ["table", "rows", "1", "2"], inFields ["letters", "2"],
    inFields ["table", "rows", "+01", "0"], inFields ["name"], inFields ["letters", "0"],
    inFields ["name", "first"], inFields ["table", "rows", "0"], inFields ["name"],
    inFields ["none"]]

theorem ignored_dropped_at_once_lateItemsFirst :
    let given := lettered ["a", "b", "c", "d"]
    let left : Fields := [("letters", .array [.string "b", .string "d"]),
      ("table", .object [("rows", .array [.array [.string "n"]])])]
    (Json.object given).Tidy ∧ (∀ path ∈ lateItemsFirst, path.root = .value) ∧
      given.Undisturbed lateItemsFirst ∧
      given.withoutIgnored ⟨"adapter", "T", "x"⟩ lateItemsFirst LeftOut.nothing = left := by
  intro given left
  have htidy : (Json.object given).Tidy := by
    simp only [given, lettered, List.map, Json.Tidy, Json.TidyMembers, Json.TidyItems, and_true,
      true_and]
    decide
  have hroots : ∀ path ∈ lateItemsFirst, path.root = .value := by decide
  have hundisturbed : given.Undisturbed lateItemsFirst := by decide
  have hleft := (ignored_dropped_at_once htidy hroots hundisturbed ⟨"adapter", "T", "x"⟩).1
  exact ⟨htidy, hroots, hundisturbed, Json.object.inj hleft⟩

/-- Of two ignored items of a list, the one that has moved up is spared if the earlier one is
named first, and another one is dropped for it. So the order matters, and an item that is named
twice takes the next one with it. -/
theorem not_dropped_at_once :
    (¬ ∀ (fields : Fields) (ignored : List FieldPath) (elemId : ElemId),
      (Json.object fields).Tidy → (∀ path ∈ ignored, path.root = .value) →
        Json.object (fields.withoutIgnored elemId ignored LeftOut.nothing) =
          (Json.object fields).without (ignored.map FieldPath.segments)) ∧
    (¬ ∀ (fields : Fields) (ignored other : List FieldPath) (elemId : ElemId),
      (Json.object fields).Tidy → (∀ path ∈ ignored, path.root = .value) → ignored.Perm other →
        fields.withoutIgnored elemId ignored LeftOut.nothing =
          fields.withoutIgnored elemId other LeftOut.nothing) ∧
    ¬ ∀ (fields : Fields) (path : FieldPath) (elemId : ElemId),
      (Json.object fields).Tidy → path.root = .value →
        fields.withoutIgnored elemId [path, path] LeftOut.nothing =
          fields.withoutIgnored elemId [path] LeftOut.nothing := by
  have htidy : (Json.object (lettered ["a", "b", "c"])).Tidy := by
    simp only [lettered, List.map, Json.Tidy, Json.TidyMembers, Json.TidyItems, and_true,
      true_and]
    decide
  let first := inFields ["letters", "0"]
  let second := inFields ["letters", "1"]
  have hroots : ∀ path ∈ [first, second], path.root = .value := by decide
  refine ⟨fun hall => ?_, fun hall => ?_, fun hall => ?_⟩
  · have hboth := hall _ [first, second] ⟨"adapter", "T", "x"⟩ htidy hroots
    change Json.object (lettered ["b"]) = Json.object (lettered ["c"]) at hboth
    simp [lettered] at hboth
  · have hboth := hall _ _ _ ⟨"adapter", "T", "x"⟩ htidy hroots (List.Perm.swap second first [])
    change lettered ["b"] = lettered ["c"] at hboth
    simp [lettered] at hboth
  · have htwice := hall _ first ⟨"adapter", "T", "x"⟩ htidy rfl
    change lettered ["c"] = lettered ["b", "c"] at htwice
    simp [lettered] at htwice

end Fields

end Rollout
