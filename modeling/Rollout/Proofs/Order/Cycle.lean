import Rollout.Proofs.Order.Dependency

/-!
# Changes that depend on each other

Changes on a cycle need not be processed in the order of the batch: once the first of them is
forced, the others follow along the demands. The first of two keeps its place if the two depend on
each other by way of changes none of which stands before it; in general it does so if the other one
is held up at it or if all that it waits for comes before the other one.
-/

namespace Rollout.Batch

open Relation

variable {changes : List Change}

/-- Of two changes on a common cycle the one that stands first in the batch is processed first if
no change of the cycle stands before it. It is so if and only if the other one is held up at it or,
unless it is held up itself, all that it waits for is processed before the other one. -/
theorem earlier_of_cycle_first_iff {removal : Bool} {i j : Nat} (hij : i < j)
    (hto : TransGen (demands removal changes).before i j)
    (hfrom : TransGen (demands removal changes).before j i) :
    (TransGen ((demands removal changes).From i) i j →
      TransGen ((demands removal changes).From i) j i →
      (dependencyOrder changes).idxOf i < (dependencyOrder changes).idxOf j) ∧
    ((dependencyOrder changes).idxOf i < (dependencyOrder changes).idxOf j ↔
      (demands removal changes).HeldUp i j ∨
      ¬ (demands removal changes).HeldUp i i ∧ ∀ k, (demands removal changes).before k i →
        (dependencyOrder changes).idxOf k < (dependencyOrder changes).idxOf j) := by
  obtain ⟨part, hpart, hidx⟩ := exists_schedule_idxOf removal changes
  obtain ⟨_, hleft, _⟩ := TransGen.head'_iff.mp hto
  obtain ⟨_, hright, _⟩ := TransGen.head'_iff.mp hfrom
  have hi := (demands removal changes).left_item hleft
  have hj := (demands removal changes).left_item hright
  constructor
  · intro hto' hfrom'
    rw [hidx i j hi hj]
    exact hpart.idxOf_lt_of_heldUp hi hij.ne ⟨i, hto'.trans hfrom', hto'.to_reflTransGen⟩
  · have hwaits : (∀ k, (demands removal changes).before k i →
        (dependencyOrder changes).idxOf k < (dependencyOrder changes).idxOf j) ↔
        ∀ k, (demands removal changes).before k i → part.idxOf k < part.idxOf j :=
      forall₂_congr fun k hk => hidx k j ((demands removal changes).left_item hk) hj
    rw [hidx i j hi hj, hwaits]
    exact hpart.idxOf_lt_iff_of_lt hi hj hij

/-- Three changes in a ring, the first one being the parent of the last one. -/
def ring : List Change :=
  [.add (namedEntity "a" ["b"]), .add (namedEntity "b" ["c"]), .add (namedEntity "c" ["a"])]

private theorem before_ring : (demands false ring).before 0 2 ∧
    (demands false ring).before 2 1 ∧ (demands false ring).before 1 0 :=
  ⟨⟨by decide, _, _, rfl, rfl, rfl, rfl, by decide⟩,
    ⟨by decide, _, _, rfl, rfl, rfl, rfl, by decide⟩,
    ⟨by decide, _, _, rfl, rfl, rfl, rfl, by decide⟩⟩

/-- The first change of the ring comes first. The other two are exchanged: the earlier one waits for
the later one, which is not held up at it. -/
theorem earlier_of_cycle_first_iff_ring :
    TransGen ((demands false ring).From 0) 0 1 ∧ TransGen ((demands false ring).From 0) 1 0 ∧
    (dependencyOrder ring).idxOf 0 < (dependencyOrder ring).idxOf 1 ∧
    TransGen (demands false ring).before 1 2 ∧ TransGen (demands false ring).before 2 1 ∧
    ¬ ((demands false ring).HeldUp 1 2 ∨
      ¬ (demands false ring).HeldUp 1 1 ∧ ∀ k, (demands false ring).before k 1 →
        (dependencyOrder ring).idxOf k < (dependencyOrder ring).idxOf 2) := by
  obtain ⟨h02, h21, h10⟩ := before_ring
  have hto : TransGen ((demands false ring).From 0) 0 1 :=
    .tail (.single ⟨h02, by decide, by decide⟩) ⟨h21, by decide, by decide⟩
  have hfrom : TransGen ((demands false ring).From 0) 1 0 := .single ⟨h10, by decide, by decide⟩
  have hfirst := (earlier_of_cycle_first_iff (by decide) (.tail (.single h02) h21)
    (.single h10)).1 hto hfrom
  have h12 : TransGen (demands false ring).before 1 2 := .tail (.single h10) h02
  have hexchanged := (earlier_of_cycle_first_iff (by decide) h12 (.single h21)).2.not.mp (by decide)
  exact ⟨hto, hfrom, hfirst, h12, .single h21, hexchanged⟩

/-- The last two changes of the ring are exchanged. -/
theorem not_earlier_of_cycle_first : ¬ ∀ (changes : List Change) (i j : Nat), i < j →
    TransGen (demands false changes).before i j →
    TransGen (demands false changes).before j i →
    (dependencyOrder changes).idxOf i < (dependencyOrder changes).idxOf j := by
  intro hall
  obtain ⟨h02, h21, h10⟩ := before_ring
  have hkept := hall ring 1 2 (by decide) (.tail (.single h10) h02) (.single h21)
  exact absurd hkept (by decide)

end Rollout.Batch
