import Mathlib.Data.List.Sort
import Rollout.Proofs.Order.Dependency

/-!
# Independent batches

No change of an independent batch has an ancestor in it, and its removals come last. There is
nothing to be put in order: it is processed as it was given.
-/

namespace Rollout.Batch

/-- No change has a snapshot of an element of the batch, and no removal stands before an addition
or modification. -/
structure Independent (changes : List Change) : Prop where
  not_isChildOf : ∀ child ∈ changes, ∀ parent ∈ changes, ¬ child.IsChildOf parent
  removals_last : changes.Pairwise fun earlier later =>
    earlier.isRemoval = true → later.isRemoval = true

namespace Independent

variable {changes : List Change}

private theorem not_before (h : Independent changes) (removal : Bool) (i j : Nat) :
    ¬ (demands removal changes).before i j := by
  intro hbefore
  obtain ⟨_, a, b, ha, hb, _, _, hfirst⟩ := hbefore
  have ha' := List.mem_of_getElem? ha
  have hb' := List.mem_of_getElem? hb
  cases removal with
  | false => exact h.not_isChildOf b hb' a ha' hfirst
  | true => exact h.not_isChildOf a ha' b hb' hfirst

private theorem lt_of_item (h : Independent changes) {i j : Nat}
    (hi : (demands false changes).item i) (hj : (demands true changes).item j) : i < j := by
  obtain ⟨a, ha, hkept⟩ := hi
  obtain ⟨b, hb, hremoval⟩ := hj
  obtain ⟨hi, rfl⟩ := List.getElem?_eq_some_iff.mp ha
  obtain ⟨hj, rfl⟩ := List.getElem?_eq_some_iff.mp hb
  rcases lt_trichotomy i j with hlt | rfl | hgt
  · exact hlt
  · exact absurd (hkept.symm.trans hremoval) (by simp)
  · have hlast := List.pairwise_iff_getElem.mp h.removals_last j i hj hi hgt hremoval
    exact absurd (hkept.symm.trans hlast) (by simp)

theorem dependencyOrder_eq (h : Independent changes) :
    dependencyOrder changes = List.range changes.length := by
  obtain ⟨upserts, removals, horder, hupserts, hremovals⟩ := dependencyOrder_parts changes
  have hascending : (dependencyOrder changes).Pairwise (· < ·) := by
    rw [horder, List.pairwise_append]
    refine ⟨hupserts.pairwise_lt_of_free (h.not_before false),
      hremovals.pairwise_lt_of_free (h.not_before true), fun i hi j hj => ?_⟩
    exact h.lt_of_item ((hupserts.mem_iff i).mp hi) ((hremovals.mem_iff j).mp hj)
  exact (dependencyOrder_perm changes).eq_of_pairwise
    (fun _ _ _ _ hlt hgt => absurd hgt (Nat.lt_asymm hlt)) hascending List.pairwise_lt_range

/-- An independent batch is processed as it was given. -/
theorem ordered_eq (h : Independent changes) : ordered changes = changes := by
  rw [ordered, h.dependencyOrder_eq, filterMap_range]

end Independent

end Rollout.Batch
