import Mathlib.Data.List.GetD
import Rollout.Proofs.Order.Placement

/-!
# The order of dependencies

The positions of a batch in the order in which it is processed are a schedule of its additions
and modifications, each after its ancestors, and then one of its removals, each before its
ancestors. Every change has one place in it.
-/

namespace Rollout

/-- The data of one change has a snapshot of the element of another one. -/
def Change.IsChildOf (child parent : Change) : Prop :=
  ∃ snapshot ∈ child.data.parents, snapshot.elemId = parent.elemId

namespace Batch

instance (child parent : Change) : Decidable (child.IsChildOf parent) :=
  inferInstanceAs (Decidable (∃ snapshot ∈ child.data.parents, _ = _))

/-- Of two changes, the one that is to come first: the ancestor among additions and
modifications, the other one among removals. -/
def ComesFirst (removal : Bool) (first second : Change) : Prop :=
  if removal then first.IsChildOf second else second.IsChildOf first

instance (removal : Bool) (first second : Change) :
    Decidable (ComesFirst removal first second) :=
  inferInstanceAs (Decidable (if removal then _ else _))

/-- The demands between the removals of a batch, or between its other changes. -/
def demands (removal : Bool) (changes : List Change) : Precedence where
  item i := ∃ c, changes[i]? = some c ∧ c.isRemoval = removal
  before i j := i ≠ j ∧ ∃ a b, changes[i]? = some a ∧ changes[j]? = some b ∧
    a.isRemoval = removal ∧ b.isRemoval = removal ∧ ComesFirst removal a b
  left_item := by
    intro i j hfirst
    obtain ⟨_, a, _, ha, _, hremoval, _⟩ := hfirst
    exact ⟨a, ha, hremoval⟩
  right_item := by
    intro i j hfirst
    obtain ⟨_, _, b, _, hb, _, hremoval, _⟩ := hfirst
    exact ⟨b, hb, hremoval⟩
  ne h := h.1

/-! ## Positions of a group -/

/-- The changes of a batch that satisfy a test, with their positions. -/
private def members (test : Change → Bool) (changes : List Change) : List (Change × Nat) :=
  changes.zipIdx.filter fun member => test member.1

private theorem mem_members {test : Change → Bool} {changes : List Change} {c : Change}
    {i : Nat} : (c, i) ∈ members test changes ↔ changes[i]? = some c ∧ test c = true := by
  simp [members, List.mem_zipIdx_iff_getElem?]

private theorem positions_eq (test : Change → Bool) (changes : List Change) :
    positions test changes = (members test changes).map Prod.snd := rfl

private theorem group_eq (test : Change → Bool) (changes : List Change) :
    ((positions test changes).filterMap fun i => changes[i]?) =
      (members test changes).map Prod.fst := by
  rw [positions_eq, List.filterMap_map, ← List.filterMap_eq_map]
  refine List.filterMap_congr fun member hmember => ?_
  exact (mem_members.mp hmember).1

private theorem positions_ascending (test : Change → Bool) (changes : List Change) :
    (positions test changes).Pairwise (· < ·) := by
  have hindices : (changes.zipIdx.map Prod.snd).Pairwise (· < ·) := by
    rw [List.zipIdx_map_snd]
    exact List.pairwise_lt_range'
  exact List.Pairwise.sublist (List.filter_sublist.map Prod.snd) hindices

theorem mem_parentEdges {group : List Change} {p c : Nat} :
    (p, c) ∈ parentEdges group ↔
      ∃ a b, group[p]? = some a ∧ group[c]? = some b ∧ b.IsChildOf a := by
  simp only [parentEdges, List.mem_flatMap, List.mem_map, List.mem_filter, Prod.exists,
    List.mem_zipIdx_iff_getElem?, decide_eq_true_eq, Prod.mk.injEq, Change.IsChildOf]
  constructor
  · intro hedge
    obtain ⟨b, _, hb, snapshot, hsnapshot, a, _, ⟨ha, heq⟩, rfl, rfl⟩ := hedge
    exact ⟨a, b, ha, hb, snapshot, hsnapshot, heq.symm⟩
  · intro hchild
    obtain ⟨a, b, ha, hb, snapshot, hsnapshot, heq⟩ := hchild
    exact ⟨b, c, hb, snapshot, hsnapshot, a, p, ⟨ha, heq.symm⟩, rfl, rfl⟩

/-! ## The two parts of the order -/

variable {changes : List Change}

private theorem mem_positions {test : Change → Bool} {i : Nat} :
    i ∈ positions test changes ↔ ∃ c, changes[i]? = some c ∧ test c = true := by
  simp only [positions_eq, List.mem_map, Prod.exists, mem_members]
  constructor
  · intro hposition
    obtain ⟨c, _, hc, rfl⟩ := hposition
    exact ⟨c, hc⟩
  · intro htest
    obtain ⟨c, hc⟩ := htest
    exact ⟨c, i, hc, rfl⟩

/-- The change at a place of a group is the change at its position in the batch. -/
private theorem change_of_place {test : Change → Bool} {p : Nat}
    (hp : p < (positions test changes).length) :
    ∃ c, test c = true ∧ changes[(positions test changes).getD p 0]? = some c ∧
      ((positions test changes).filterMap fun i => changes[i]?)[p]? = some c := by
  rw [group_eq]
  simp only [positions_eq, List.length_map] at hp ⊢
  obtain ⟨hchange, htest⟩ := mem_members.mp (List.getElem_mem hp)
  exact ⟨(members test changes)[p].1, htest, by simpa [hp] using hchange, by simp [hp]⟩

private theorem embeds_positions {test : Change → Bool} {removal : Bool} {edges : List Edge}
    (htest : ∀ c, test c = true ↔ c.isRemoval = removal)
    (hedges : ∀ p q, (p, q) ∈ edges ↔ ∃ a b,
      ((positions test changes).filterMap fun i => changes[i]?)[p]? = some a ∧
      ((positions test changes).filterMap fun i => changes[i]?)[q]? = some b ∧
      ComesFirst removal a b) :
    Precedence.Embeds (.ofEdges (positions test changes).length edges)
      (demands removal changes) fun p => (positions test changes).getD p 0 := by
  have hlt : ∀ {p q}, p < (positions test changes).length →
      q < (positions test changes).length → p < q →
      (positions test changes).getD p 0 < (positions test changes).getD q 0 := by
    intro p q hp hq hpq
    rw [List.getD_eq_getElem _ _ hp, List.getD_eq_getElem _ _ hq]
    exact List.pairwise_iff_getElem.mp (positions_ascending test changes) p q hp hq hpq
  refine ⟨hlt, fun i => ?_, fun {p q} hp hq => ?_⟩
  · have hitem : (demands removal changes).item i ↔ i ∈ positions test changes := by
      simp only [mem_positions, htest]
      rfl
    rw [hitem, List.mem_iff_getElem]
    constructor
    · intro hplace
      obtain ⟨p, hp, rfl⟩ := hplace
      exact ⟨p, hp, List.getD_eq_getElem _ _ hp⟩
    · intro hplace
      obtain ⟨p, hp, rfl⟩ := hplace
      exact ⟨p, hp, (List.getD_eq_getElem _ _ hp).symm⟩
  · obtain ⟨a, ha, hap, hag⟩ := change_of_place hp
    obtain ⟨b, hb, hbq, hbg⟩ := change_of_place hq
    have hne : (positions test changes).getD p 0 ≠ (positions test changes).getD q 0 ↔
        p ≠ q := by
      constructor
      · rintro h rfl
        exact h rfl
      · intro h
        rcases Nat.lt_or_gt_of_ne h with h | h
        · exact (hlt hp hq h).ne
        · exact (hlt hq hp h).ne'
    have hedge : (p, q) ∈ edges ↔ ComesFirst removal a b := by
      rw [hedges, hag, hbg]
      simp
    simp only [demands, Precedence.ofEdges, hne, hap, hbq, hedge]
    constructor
    · intro hbefore
      obtain ⟨hpq, _, _, ⟨⟩, ⟨⟩, _, _, hfirst⟩ := hbefore
      exact ⟨hfirst, hpq, hp, hq⟩
    · intro hbefore
      obtain ⟨hfirst, hpq, _, _⟩ := hbefore
      exact ⟨hpq, a, b, rfl, rfl, (htest a).mp ha, (htest b).mp hb, hfirst⟩

/-- The positions of a group, sorted along the demands between its places. -/
private theorem schedule_positions {test : Change → Bool} {removal : Bool}
    {edges : List Edge} (htest : ∀ c, test c = true ↔ c.isRemoval = removal)
    (hedges : ∀ p q, (p, q) ∈ edges ↔ ∃ a b,
      ((positions test changes).filterMap fun i => changes[i]?)[p]? = some a ∧
      ((positions test changes).filterMap fun i => changes[i]?)[q]? = some b ∧
      ComesFirst removal a b) :
    (demands removal changes).Schedule
      ((stableSort (positions test changes).length edges).filterMap
        fun p => (positions test changes)[p]?) := by
  have hbound : ∀ e ∈ edges, e.1 < (positions test changes).length ∧
      e.2 < (positions test changes).length := by
    rintro ⟨p, q⟩ he
    obtain ⟨a, b, ha, hb, _⟩ := (hedges p q).mp he
    rw [group_eq] at ha hb
    have hp := (List.getElem?_eq_some_iff.mp ha).1
    have hq := (List.getElem?_eq_some_iff.mp hb).1
    simpa [positions_eq] using And.intro hp hq
  have hsorted := stableSort_schedule hbound
  have hmap : ((stableSort (positions test changes).length edges).filterMap
      fun p => (positions test changes)[p]?) =
      (stableSort (positions test changes).length edges).map
        fun p => (positions test changes).getD p 0 := by
    rw [← List.filterMap_eq_map]
    refine List.filterMap_congr fun p hp => ?_
    have hp' : p < (positions test changes).length := (hsorted.mem_iff p).mp hp
    simp [hp']
  rw [hmap]
  exact (embeds_positions htest hedges).schedule hsorted

/-- The order of a batch is a schedule of its additions and modifications, and then one of its
removals. -/
theorem dependencyOrder_parts (changes : List Change) :
    ∃ upserts removals, dependencyOrder changes = upserts ++ removals ∧
      (demands false changes).Schedule upserts ∧ (demands true changes).Schedule removals := by
  refine ⟨_, _, rfl, ?_, ?_⟩
  · refine schedule_positions (by simp) fun p q => ?_
    simp [mem_parentEdges, ComesFirst]
  · refine schedule_positions (by simp) fun p q => ?_
    simp only [List.mem_map, Prod.exists, Prod.swap_prod_mk, Prod.mk.injEq, mem_parentEdges,
      ComesFirst, if_true]
    constructor
    · intro hedge
      obtain ⟨_, _, ⟨b, a, hb, ha, hfirst⟩, rfl, rfl⟩ := hedge
      exact ⟨a, b, ha, hb, hfirst⟩
    · intro hchild
      obtain ⟨a, b, ha, hb, hfirst⟩ := hchild
      exact ⟨q, p, ⟨b, a, hb, ha, hfirst⟩, rfl, rfl⟩

/-! ## Every change has one place -/

private theorem item_iff_lt {i : Nat} :
    (demands false changes).item i ∨ (demands true changes).item i ↔ i < changes.length := by
  constructor
  · rintro (⟨c, hc, _⟩ | ⟨c, hc, _⟩) <;> exact (List.getElem?_eq_some_iff.mp hc).1
  · intro hi
    cases hremoval : changes[i].isRemoval with
    | false => exact .inl ⟨changes[i], by simp, hremoval⟩
    | true => exact .inr ⟨changes[i], by simp, hremoval⟩

private theorem not_item_both {i : Nat} (hupsert : (demands false changes).item i) :
    ¬ (demands true changes).item i := by
  intro hitem
  obtain ⟨b, hb, hremoval⟩ := hitem
  obtain ⟨a, ha, hkept⟩ := hupsert
  rw [ha] at hb
  obtain rfl := Option.some.inj hb
  rw [hkept] at hremoval
  exact Bool.noConfusion hremoval

theorem mem_dependencyOrder {i : Nat} : i ∈ dependencyOrder changes ↔ i < changes.length := by
  obtain ⟨upserts, removals, horder, hupserts, hremovals⟩ := dependencyOrder_parts changes
  rw [horder, List.mem_append, hupserts.mem_iff, hremovals.mem_iff, item_iff_lt]

theorem nodup_dependencyOrder (changes : List Change) : (dependencyOrder changes).Nodup := by
  obtain ⟨upserts, removals, horder, hupserts, hremovals⟩ := dependencyOrder_parts changes
  rw [horder]
  refine hupserts.nodup.append hremovals.nodup fun i hi hi' => ?_
  exact not_item_both ((hupserts.mem_iff i).mp hi) ((hremovals.mem_iff i).mp hi')

theorem dependencyOrder_perm (changes : List Change) :
    (dependencyOrder changes).Perm (List.range changes.length) := by
  rw [List.perm_ext_iff_of_nodup (nodup_dependencyOrder changes) List.nodup_range]
  intro i
  rw [mem_dependencyOrder, List.mem_range]

theorem ordered_perm (changes : List Change) : (ordered changes).Perm changes := by
  have hperm := (dependencyOrder_perm changes).filterMap fun i => changes[i]?
  rwa [filterMap_range] at hperm

/-! ## Parents and children -/

private theorem idxOf_append_lt {first second : List Nat} {i j : Nat} (hi : i ∉ first)
    (hj : j ∉ first) : (first ++ second).idxOf i < (first ++ second).idxOf j ↔
      second.idxOf i < second.idxOf j := by
  rw [List.idxOf_append_of_notMem hi, List.idxOf_append_of_notMem hj]
  omega

/-- The changes of a group stand in the order of the batch as in a schedule of the group. -/
theorem exists_schedule_idxOf (removal : Bool) (changes : List Change) :
    ∃ part, (demands removal changes).Schedule part ∧
      ∀ i j, (demands removal changes).item i → (demands removal changes).item j →
        ((dependencyOrder changes).idxOf i < (dependencyOrder changes).idxOf j ↔
          part.idxOf i < part.idxOf j) := by
  obtain ⟨upserts, removals, horder, hupserts, hremovals⟩ := dependencyOrder_parts changes
  rw [horder]
  cases removal with
  | false =>
    refine ⟨upserts, hupserts, fun i j hi hj => ?_⟩
    rw [List.idxOf_append_of_mem ((hupserts.mem_iff i).mpr hi),
      List.idxOf_append_of_mem ((hupserts.mem_iff j).mpr hj)]
  | true =>
    have hout : ∀ k, (demands true changes).item k → k ∉ upserts := fun k hk hmem =>
      not_item_both ((hupserts.mem_iff k).mp hmem) hk
    exact ⟨removals, hremovals, fun i j hi hj => idxOf_append_lt (hout i hi) (hout j hj)⟩

/-- A demand is kept in the order of a batch if and only if the change that is to come first is
not held up. -/
theorem dependencyOrder_idxOf_lt_iff {removal : Bool} {i j : Nat}
    (h : (demands removal changes).before i j) :
    (dependencyOrder changes).idxOf i < (dependencyOrder changes).idxOf j ↔
      ¬ (demands removal changes).HeldUp j i := by
  obtain ⟨part, hpart, hidx⟩ := exists_schedule_idxOf removal changes
  rw [hidx i j ((demands removal changes).left_item h) ((demands removal changes).right_item h)]
  exact hpart.idxOf_lt_iff h

/-- Of a parent and its child in a group the one that is to come first does so if and only if
it is not held up: it does not lie on or after a cycle of changes of the group which, like the
way from the cycle to it, stands wholly at or after the other one in the batch. -/
theorem parent_first_iff_not_heldUp {parent child : Change} {i j : Nat}
    (hi : changes[i]? = some parent) (hj : changes[j]? = some child) (hij : i ≠ j)
    (hchild : child.IsChildOf parent) :
    (parent.isRemoval = false → child.isRemoval = false →
      ((dependencyOrder changes).idxOf i < (dependencyOrder changes).idxOf j ↔
        ¬ (demands false changes).HeldUp j i)) ∧
    (parent.isRemoval = true → child.isRemoval = true →
      ((dependencyOrder changes).idxOf j < (dependencyOrder changes).idxOf i ↔
        ¬ (demands true changes).HeldUp i j)) := by
  constructor
  · intro hparent hchild'
    exact dependencyOrder_idxOf_lt_iff ⟨hij, parent, child, hi, hj, hparent, hchild', hchild⟩
  · intro hparent hchild'
    exact dependencyOrder_idxOf_lt_iff
      ⟨hij.symm, child, parent, hj, hi, hchild', hparent, hchild⟩

/-- An entity of which only its name and those of its ancestors are told. -/
def namedEntity (name : String) (ancestors : List String) : Entity where
  elemId := ⟨"adapter", "T", name⟩
  objectType := .plain
  value := []
  parents := ancestors.map fun ancestor => ⟨⟨"adapter", "T", ancestor⟩, []⟩

/-- Two changes that are each other's parents and, before them, a child of both. -/
def childBeforeCycle : List Change :=
  [.add (namedEntity "c" ["a", "b"]), .add (namedEntity "a" ["b"]),
    .add (namedEntity "b" ["a"])]

theorem parent_first_iff_not_heldUp_childBeforeCycle :
    childBeforeCycle[1]? = some (.add (namedEntity "a" ["b"])) ∧
      childBeforeCycle[0]? = some (.add (namedEntity "c" ["a", "b"])) ∧
      Change.IsChildOf (.add (namedEntity "c" ["a", "b"])) (.add (namedEntity "a" ["b"])) ∧
      ((dependencyOrder childBeforeCycle).idxOf 1 < (dependencyOrder childBeforeCycle).idxOf 0 ↔
        ¬ (demands false childBeforeCycle).HeldUp 0 1) := by
  have hparent : childBeforeCycle[1]? = some (.add (namedEntity "a" ["b"])) := rfl
  have hchild : childBeforeCycle[0]? = some (.add (namedEntity "c" ["a", "b"])) := rfl
  have hchildOf : Change.IsChildOf (.add (namedEntity "c" ["a", "b"]))
      (.add (namedEntity "a" ["b"])) := by decide
  exact ⟨hparent, hchild, hchildOf,
    (parent_first_iff_not_heldUp hparent hchild (by decide) hchildOf).1 rfl rfl⟩

/-- A parent that does not depend on its child may still come after it: the one that is forced
when all changes left wait need not lie on a cycle. -/
theorem not_parent_first_of_independent : ¬ ∀ (changes : List Change) (i j : Nat),
    (demands false changes).before i j →
    ¬ Relation.TransGen (demands false changes).before j i →
    (dependencyOrder changes).idxOf i < (dependencyOrder changes).idxOf j := by
  intro hall
  have hbefore : (demands false childBeforeCycle).before 1 0 :=
    ⟨by decide, _, _, rfl, rfl, rfl, rfl, by decide⟩
  have hfree : ∀ k, ¬ (demands false childBeforeCycle).before 0 k := by
    intro k hbefore
    obtain ⟨_, a, b, ha, hb, _, _, hfirst⟩ := hbefore
    obtain rfl := Option.some.inj ha
    have hnone : ∀ c ∈ childBeforeCycle, ¬ c.IsChildOf (.add (namedEntity "c" ["a", "b"])) := by
      decide
    exact hnone b (List.mem_of_getElem? hb) hfirst
  have hindependent : ¬ Relation.TransGen (demands false childBeforeCycle).before 0 1 := by
    intro hpath
    obtain ⟨k, hk, _⟩ := Relation.TransGen.head'_iff.mp hpath
    exact hfree k hk
  exact absurd (hall childBeforeCycle 1 0 hbefore hindependent) (by decide)

end Batch

end Rollout
