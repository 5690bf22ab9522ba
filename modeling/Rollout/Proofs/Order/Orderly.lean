import Rollout.Proofs.Order.Dependency

/-!
# Orderly batches

A batch is orderly if no element is added or modified twice and none depends on itself through
others. In the order in which an orderly batch is processed no change stands before an addition
or modification of one of its ancestors.
-/

namespace Rollout.Batch

open Relation

/-- Of two elements that are added or modified in a batch, the first is an ancestor of the
second. -/
structure ParentIn (changes : List Change) (parent child : Change) : Prop where
  parent_mem : parent ∈ changes
  child_mem : child ∈ changes
  parent_kept : parent.isRemoval = false
  child_kept : child.isRemoval = false
  ne : parent.elemId ≠ child.elemId
  isChildOf : child.IsChildOf parent

/-- The additions and modifications of a batch are of distinct elements, and none of these
depends on itself through others. -/
structure Orderly (changes : List Change) : Prop where
  distinct : changes.Pairwise fun a b =>
    a.isRemoval = false → b.isRemoval = false → a.elemId ≠ b.elemId
  acyclic : ∀ change, ¬ TransGen (ParentIn changes) change change

namespace Orderly

variable {changes changes' : List Change}

theorem perm (h : Orderly changes) (hperm : changes.Perm changes') : Orderly changes' := by
  constructor
  · exact hperm.pairwise h.distinct fun {a b} hab hb ha => (hab ha hb).symm
  · intro change hcycle
    refine h.acyclic change (TransGen.mono (fun a b hab => ?_) _ _ hcycle)
    exact { hab with
      parent_mem := hperm.mem_iff.mpr hab.parent_mem
      child_mem := hperm.mem_iff.mpr hab.child_mem }

theorem elemId_ne (h : Orderly changes) {i j : Nat} {a b : Change} (hij : i ≠ j)
    (ha : changes[i]? = some a) (hb : changes[j]? = some b) (hkept : a.isRemoval = false)
    (hkept' : b.isRemoval = false) : a.elemId ≠ b.elemId := by
  obtain ⟨hi, rfl⟩ := List.getElem?_eq_some_iff.mp ha
  obtain ⟨hj, rfl⟩ := List.getElem?_eq_some_iff.mp hb
  rcases Nat.lt_or_gt_of_ne hij with hlt | hlt
  · exact List.pairwise_iff_getElem.mp h.distinct i j hi hj hlt hkept hkept'
  · exact (List.pairwise_iff_getElem.mp h.distinct j i hj hi hlt hkept' hkept).symm

/-- A batch is orderly if its additions and modifications are of distinct elements and can be
ranked so that each has a higher rank than its ancestors. -/
theorem of_rank (rank : Change → Nat)
    (hdistinct : changes.Pairwise fun a b =>
      a.isRemoval = false → b.isRemoval = false → a.elemId ≠ b.elemId)
    (hrank : ∀ child ∈ changes, ∀ parent ∈ changes, parent.elemId ≠ child.elemId →
      child.IsChildOf parent → rank parent < rank child) : Orderly changes := by
  have hpath : ∀ a b, TransGen (ParentIn changes) a b → rank a < rank b := by
    intro a b hpath
    induction hpath with
    | single hab => exact hrank _ hab.child_mem _ hab.parent_mem hab.ne hab.isChildOf
    | tail _ hbc ih =>
      exact ih.trans (hrank _ hbc.child_mem _ hbc.parent_mem hbc.ne hbc.isChildOf)
  exact ⟨hdistinct, fun change hcycle => (hpath change change hcycle).false⟩

private theorem transGen_parentIn (h : Orderly changes) {i j : Nat}
    (hpath : TransGen (demands false changes).before i j) :
    ∀ a b, changes[i]? = some a → changes[j]? = some b → TransGen (ParentIn changes) a b := by
  have hparent : ∀ {i j : Nat}, (demands false changes).before i j →
      ∀ a b, changes[i]? = some a → changes[j]? = some b → ParentIn changes a b := by
    intro i j hbefore a b ha hb
    obtain ⟨hij, a', b', ha', hb', hkept, hkept', hchild⟩ := hbefore
    obtain rfl := Option.some.inj (ha.symm.trans ha')
    obtain rfl := Option.some.inj (hb.symm.trans hb')
    exact ⟨List.mem_of_getElem? ha, List.mem_of_getElem? hb, hkept, hkept',
      h.elemId_ne hij ha hb hkept hkept', hchild⟩
  induction hpath with
  | single hbefore => exact fun a b ha hb => .single (hparent hbefore a b ha hb)
  | tail _ hbefore ih =>
    intro a c ha hc
    obtain ⟨b, hb, _⟩ := (demands false changes).left_item hbefore
    exact (ih a b ha hb).tail (hparent hbefore b c hb hc)

private theorem acyclic_demands (h : Orderly changes) (i : Nat) :
    ¬ TransGen (demands false changes).before i i := by
  intro hcycle
  obtain ⟨j, hbefore, _⟩ := TransGen.head'_iff.mp hcycle
  obtain ⟨a, ha, _⟩ := (demands false changes).left_item hbefore
  exact h.acyclic a (h.transGen_parentIn hcycle a a ha ha)

/-- No change stands before an addition or modification of one of its ancestors. -/
theorem pairwise_ordered (h : Orderly changes) : (ordered changes).Pairwise
    fun earlier later => later.isRemoval = false → ¬ earlier.IsChildOf later := by
  obtain ⟨upserts, removals, horder, hupserts, hremovals⟩ := dependencyOrder_parts changes
  have hremoval : ∀ (i : Nat), ∀ j ∈ removals, ∀ a : Change, changes[i]? = some a →
      ∀ b : Change, changes[j]? = some b → b.isRemoval = false → ¬ a.IsChildOf b := by
    intro i j hj a _ b hb hb'
    obtain ⟨c, hc, hc'⟩ := (hremovals.mem_iff j).mp hj
    obtain rfl := Option.some.inj (hb.symm.trans hc)
    exact absurd (hb'.symm.trans hc') (by simp)
  rw [ordered, horder, List.pairwise_filterMap, List.pairwise_append]
  refine ⟨?_, ?_, fun i _ j hj => hremoval i j hj⟩
  · have hkept := (hupserts.pairwise_of_acyclic h.acyclic_demands).and hupserts.nodup
    refine hkept.imp_of_mem fun {i j} hi _ hij a ha b hb hb' hchild => ?_
    obtain ⟨c, hc, hc'⟩ := (hupserts.mem_iff i).mp hi
    obtain rfl := Option.some.inj (ha.symm.trans hc)
    exact hij.1 ⟨hij.2.symm, b, a, hb, ha, hb', hc', hchild⟩
  · exact List.pairwise_of_forall_mem_list fun i _ j hj => hremoval i j hj

theorem not_isChildOf (h : Orderly changes) {i j : Nat} {a b : Change} (hij : i < j)
    (ha : (ordered changes)[i]? = some a) (hb : (ordered changes)[j]? = some b)
    (hkept : b.isRemoval = false) : ¬ a.IsChildOf b := by
  obtain ⟨hi, rfl⟩ := List.getElem?_eq_some_iff.mp ha
  obtain ⟨hj, rfl⟩ := List.getElem?_eq_some_iff.mp hb
  exact List.pairwise_iff_getElem.mp h.pairwise_ordered i j hi hj hij hkept

end Orderly

end Rollout.Batch
