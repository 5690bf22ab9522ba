import Rollout.Proofs.Order.Dependency

/-!
# The least arrangement

An arrangement keeps to all demands between some positions. If there is no cycle of demands, a
schedule is the lexicographically least arrangement: where another one departs from it, that one
places a position that was ready, and the schedule has chosen the earliest of these.
-/

namespace Rollout.Batch

open Relation

namespace Precedence

variable (P : Precedence)

/-- All positions, each of them once and after those that are to be placed before it. -/
structure Arrangement (order : List Nat) : Prop where
  nodup : order.Nodup
  mem_iff : ∀ p, p ∈ order ↔ P.item p
  keeps : order.Pairwise fun p q => ¬ P.before q p

/-- The arrangement that is lexicographically less than every other one. -/
structure LeastArrangement (order : List Nat) : Prop extends P.Arrangement order where
  least : ∀ other, P.Arrangement other → order = other ∨ List.Lex (· < ·) order other

variable {P} {order other : List Nat}

/-- The next position of an arrangement waits on none that is not yet placed. -/
theorem Arrangement.ready {done rest : List Nat} {p : Nat}
    (h : P.Arrangement (done ++ p :: rest)) : P.Ready done p := by
  have hnodup := List.nodup_append.mp h.nodup
  refine ⟨(h.mem_iff p).mp (by simp), fun hdone => ?_, fun q hq => ?_⟩
  · exact hnodup.2.2 p hdone p List.mem_cons_self rfl
  · have hmem := (h.mem_iff q).mpr (P.left_item hq)
    rcases List.mem_append.mp hmem with hdone | hrest
    · exact hdone
    rcases List.mem_cons.mp hrest with rfl | hrest
    · exact absurd rfl (P.ne hq)
    · have hkept := (List.pairwise_append.mp h.keeps).2.1
      exact absurd hq ((List.pairwise_cons.mp hkept).1 q hrest)

namespace Schedule

theorem arrangement (h : P.Schedule order) (hacyclic : ∀ p, ¬ TransGen P.before p p) :
    P.Arrangement order :=
  ⟨h.nodup, h.mem_iff, h.pairwise_of_acyclic hacyclic⟩

theorem eq_or_lex_of_arrangement (h : P.Schedule order) (hother : P.Arrangement other) :
    order = other ∨ List.Lex (· < ·) order other := by
  -- by induction on what is left after the part that both have in common
  have hrest : ∀ rest rest' done, order = done ++ rest → other = done ++ rest' →
      rest = rest' ∨ List.Lex (· < ·) rest rest' := by
    intro rest
    induction rest with
    | nil =>
      intro rest' _ _ _
      cases rest' with
      | nil => exact .inl rfl
      | cons q rest' => exact .inr .nil
    | cons p rest ih =>
      intro rest' done hsplit hsplit'
      have hnext := h.next done p rest hsplit
      cases rest' with
      | nil =>
        have hmem := (hother.mem_iff p).mpr hnext.item
        rw [hsplit', List.append_nil] at hmem
        exact absurd hmem hnext.not_mem
      | cons q rest' =>
        have hready := (hsplit' ▸ hother).ready
        rcases (hnext.le_of_ready hready).lt_or_eq with hlt | rfl
        · exact .inr (.rel hlt)
        · rcases ih rest' (done ++ [p]) (by simpa using hsplit) (by simpa using hsplit')
            with rfl | hlex
          · exact .inl rfl
          · exact .inr (.cons hlex)
  exact hrest order other [] rfl rfl

theorem leastArrangement (h : P.Schedule order) (hacyclic : ∀ p, ¬ TransGen P.before p p) :
    P.LeastArrangement order :=
  { h.arrangement hacyclic with least := fun _ hother => h.eq_or_lex_of_arrangement hother }

end Schedule

end Precedence

variable {changes : List Change}

/-- There is no cycle of demands between changes that can be ranked along them. -/
theorem acyclic_of_rank {removal : Bool} (rank : Nat → Nat)
    (h : ∀ first ∈ changes.zipIdx, ∀ second ∈ changes.zipIdx, first.2 ≠ second.2 →
      first.1.isRemoval = removal → second.1.isRemoval = removal →
      ComesFirst removal first.1 second.1 → rank first.2 < rank second.2) (i : Nat) :
    ¬ TransGen (demands removal changes).before i i := by
  intro hcycle
  have hrank : ∀ i j, (demands removal changes).before i j → rank i < rank j := by
    intro i j hbefore
    obtain ⟨hij, a, b, ha, hb, hremoval, hremoval', hfirst⟩ := hbefore
    exact h (a, i) (List.mem_zipIdx_iff_getElem?.mpr ha) (b, j)
      (List.mem_zipIdx_iff_getElem?.mpr hb) hij hremoval hremoval' hfirst
  have hlt := hcycle.lift rank hrank
  rw [transGen_eq_self] at hlt
  exact Nat.lt_irrefl _ hlt

/-- Without a cycle of demands the additions and modifications of a batch are processed before
the removals, and each part is the lexicographically least of all arrangements in which every
change of the part has its place relative to its ancestors. -/
theorem dependencyOrder_least
    (h : ∀ removal i, ¬ TransGen (demands removal changes).before i i) :
    ∃ upserts removals, dependencyOrder changes = upserts ++ removals ∧
      (demands false changes).LeastArrangement upserts ∧
      (demands true changes).LeastArrangement removals := by
  obtain ⟨upserts, removals, horder, hupserts, hremovals⟩ := dependencyOrder_parts changes
  exact ⟨upserts, removals, horder, hupserts.leastArrangement (h false),
    hremovals.leastArrangement (h true)⟩

/-- Children stand before their parents, an element is added and modified again, one names itself
as an ancestor, and of a parent and its child the parent is removed first. -/
def entangled : List Change :=
  [.remove (namedEntity "p" []), .add (namedEntity "c" ["b", "c", "b"]),
    .add (namedEntity "b" ["a"]), .remove (namedEntity "q" ["p"]), .add (namedEntity "f" []),
    .modify (namedEntity "b" []) (namedEntity "b" []), .add (namedEntity "a" [])]

theorem dependencyOrder_least_entangled :
    (∀ removal i, ¬ TransGen (demands removal entangled).before i i) ∧
    dependencyOrder entangled = [4, 5, 6, 2, 1] ++ [3, 0] ∧
    ∃ upserts removals, dependencyOrder entangled = upserts ++ removals ∧
      (demands false entangled).LeastArrangement upserts ∧
      (demands true entangled).LeastArrangement removals := by
  have hacyclic : ∀ removal i, ¬ TransGen (demands removal entangled).before i i := by
    intro removal
    -- the order itself ranks the changes
    apply acyclic_of_rank fun i => [4, 5, 6, 2, 1, 3, 0].idxOf i
    cases removal <;> decide
  exact ⟨hacyclic, by decide, dependencyOrder_least hacyclic⟩

end Rollout.Batch
