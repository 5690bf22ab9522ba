import Rollout.Proofs.Order.Dependency

/-!
# Ordering again

A batch that has been put in order stays as it is when it is ordered again, also where changes
depend on each other. The positions of the ordered batch are those of the batch under other names,
and each part of them, taken as it stands, is a schedule: where a position of the batch was ready it
is ready again, and where it was forced it is forced again, being the earliest that is left.
-/

namespace Rollout.Batch

variable {changes : List Change}

private theorem map_some_ordered (changes : List Change) :
    (ordered changes).map some = (dependencyOrder changes).map fun i => changes[i]? := by
  rw [ordered, List.map_filterMap, ← List.filterMap_eq_map]
  refine List.filterMap_congr fun i hi => ?_
  simp [mem_dependencyOrder.mp hi]

theorem length_dependencyOrder (changes : List Change) :
    (dependencyOrder changes).length = changes.length := by
  rw [(dependencyOrder_perm changes).length_eq, List.length_range]

/-- The change at a place of the ordered batch is the change at its position in the batch. -/
theorem getElem?_ordered {p : Nat} (hp : p < changes.length) :
    (ordered changes)[p]? = changes[(dependencyOrder changes).getD p 0]? := by
  have hp' : p < (dependencyOrder changes).length := by rwa [length_dependencyOrder]
  have hplace := congrArg (·[p]?) (map_some_ordered changes)
  simp only [List.getElem?_map, List.getElem?_eq_getElem hp', Option.map_some] at hplace
  rw [List.getD_eq_getElem _ _ hp']
  cases hchange : (ordered changes)[p]? with
  | none => simp [hchange] at hplace
  | some change => simpa [hchange] using hplace

private theorem lt_of_item {removal : Bool} {p : Nat}
    (h : (demands removal (ordered changes)).item p) : p < changes.length := by
  obtain ⟨_, hchange, _⟩ := h
  rw [← (ordered_perm changes).length_eq]
  exact (List.getElem?_eq_some_iff.mp hchange).1

theorem item_ordered_iff {removal : Bool} {p : Nat} (hp : p < changes.length) :
    (demands removal (ordered changes)).item p ↔
      (demands removal changes).item ((dependencyOrder changes).getD p 0) := by
  simp only [demands, getElem?_ordered hp]

/-- The positions of an ordered batch are those of the batch under other names. -/
theorem renames_ordered (removal : Bool) (changes : List Change) :
    Precedence.Renames (demands removal (ordered changes)) (demands removal changes)
      fun p => (dependencyOrder changes).getD p 0 := by
  have hinjective : ∀ {p q}, p < changes.length → q < changes.length →
      ((dependencyOrder changes).getD p 0 = (dependencyOrder changes).getD q 0 ↔ p = q) := by
    intro p q hp hq
    rw [← length_dependencyOrder] at hp hq
    rw [List.getD_eq_getElem _ _ hp, List.getD_eq_getElem _ _ hq]
    exact (nodup_dependencyOrder changes).getElem_inj_iff
  refine ⟨fun {p q} hp hq => (hinjective (lt_of_item hp) (lt_of_item hq)).mp, fun i => ?_,
    fun {p q} hp hq => ?_⟩
  · constructor
    · intro hi
      obtain ⟨_, hchange, _⟩ := id hi
      have hmem := mem_dependencyOrder.mpr (List.getElem?_eq_some_iff.mp hchange).1
      obtain ⟨p, hp, rfl⟩ := List.mem_iff_getElem.mp hmem
      have hp' : p < changes.length := by rwa [← length_dependencyOrder]
      rw [← List.getD_eq_getElem _ 0 hp] at hi ⊢
      exact ⟨p, (item_ordered_iff hp').mpr hi, rfl⟩
    · intro hp
      obtain ⟨p, hp, rfl⟩ := hp
      exact (item_ordered_iff (lt_of_item hp)).mp hp
  · have hp' := lt_of_item hp
    have hq' := lt_of_item hq
    simp only [demands, ne_eq, hinjective hp' hq', getElem?_ordered hp', getElem?_ordered hq']

private theorem map_getD_range' (before part after : List Nat) :
    ((List.range' before.length part.length).map fun p => (before ++ part ++ after).getD p 0) =
      part := by
  apply List.ext_getElem
  · simp
  · intro i _ hi
    have hright : before.length ≤ before.length + i := Nat.le_add_right _ _
    simp [List.getElem?_append_right hright, List.getElem?_append_left hi, hi]

/-- A part of the order stands in the ordered batch as a schedule of its changes. -/
private theorem schedule_part {removal : Bool} {before part after : List Nat}
    (horder : dependencyOrder changes = before ++ part ++ after)
    (hpart : (demands removal changes).Schedule part) :
    (demands removal (ordered changes)).Schedule (List.range' before.length part.length) := by
  have hmap := map_getD_range' before part after
  rw [← horder] at hmap
  have hitem : ∀ p ∈ List.range' before.length part.length,
      (demands removal (ordered changes)).item p := by
    intro p hp
    have hlength := congrArg List.length horder
    simp only [length_dependencyOrder, List.length_append] at hlength
    have hlt : p < changes.length := by
      have hend := (List.mem_range'_1.mp hp).2
      omega
    rw [item_ordered_iff hlt, ← hpart.mem_iff]
    exact hmap ▸ List.mem_map_of_mem hp
  rw [← hmap] at hpart
  exact (renames_ordered removal changes).schedule_of_map List.pairwise_lt_range' hitem hpart

/-- A batch in the order in which it is processed is already in order. -/
theorem dependencyOrder_ordered (changes : List Change) :
    dependencyOrder (ordered changes) = List.range changes.length ∧
      ordered (ordered changes) = ordered changes := by
  obtain ⟨upserts, removals, horder, hupserts, hremovals⟩ := dependencyOrder_parts changes
  obtain ⟨upserts', removals', horder', hupserts', hremovals'⟩ :=
    dependencyOrder_parts (ordered changes)
  have hsame : dependencyOrder (ordered changes) = List.range changes.length := by
    have hfirst : dependencyOrder changes = [] ++ upserts ++ removals := horder
    have hlast : dependencyOrder changes = upserts ++ removals ++ [] := by simpa using horder
    have hlength := congrArg List.length horder
    rw [length_dependencyOrder, List.length_append] at hlength
    rw [horder', hupserts'.unique (schedule_part hfirst hupserts),
      hremovals'.unique (schedule_part hlast hremovals), hlength, List.range_eq_range',
      List.length_nil, ← List.range'_append_1, Nat.zero_add]
  refine ⟨hsame, ?_⟩
  rw [ordered, hsame, ← (ordered_perm changes).length_eq, filterMap_range]

end Rollout.Batch
