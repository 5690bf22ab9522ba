import Mathlib.Data.Fintype.Card
import Mathlib.Data.Fintype.EquivFin
import Mathlib.Data.List.Nodup
import Mathlib.Logic.Relation

/-!
# Schedules

Positions are to be placed, some of them before others. A schedule places the earliest
position that waits on nothing or, if every position left waits, the earliest one left. A
demand is kept unless the earlier position is held up: it lies on or after a cycle that stands
wholly at or after the later position.
-/

namespace Rollout.Batch

open Relation

/-- Positions to be placed, and which of them is to be placed before which. -/
structure Precedence where
  item : Nat → Prop
  before : Nat → Nat → Prop
  left_item {p q : Nat} : before p q → item p
  right_item {p q : Nat} : before p q → item q
  ne {p q : Nat} : before p q → p ≠ q

namespace Precedence

variable (P : Precedence)

/-- A position that is not yet placed and waits on none that is not. -/
def Ready (done : List Nat) (p : Nat) : Prop :=
  P.item p ∧ p ∉ done ∧ ∀ q, P.before q p → q ∈ done

/-- The position that is placed after some others. -/
inductive Next (done : List Nat) (p : Nat) : Prop where
  | ready (h : P.Ready done p) (earliest : ∀ q, P.Ready done q → p ≤ q)
  | forced (item : P.item p) (left : p ∉ done) (stuck : ∀ q, ¬ P.Ready done q)
      (earliest : ∀ q, P.item q → q ∉ done → p ≤ q)

/-- All positions, each one where its turn is. -/
structure Schedule (order : List Nat) : Prop where
  mem_iff : ∀ p, p ∈ order ↔ P.item p
  next : ∀ done p rest, order = done ++ p :: rest → P.Next done p

/-- Demands between positions none of which stands before `b`. -/
def From (b p q : Nat) : Prop := P.before p q ∧ b ≤ p ∧ b ≤ q

/-- A position lies on or after a cycle that, like the way to the position, stands wholly at
or after `b`. -/
def HeldUp (b p : Nat) : Prop :=
  ∃ q, TransGen (P.From b) q q ∧ ReflTransGen (P.From b) q p

/-- The positions that can be placed before `b` is forced. -/
inductive Freed (b : Nat) : Nat → Prop where
  | early {p : Nat} (h : p < b) : Freed b p
  | after {p : Nat} (h : ∀ q, P.before q p → Freed b q) : Freed b p

variable {P}

theorem Next.item {done : List Nat} {p : Nat} (h : P.Next done p) : P.item p := by
  cases h with
  | ready h _ => exact h.1
  | forced item _ _ _ => exact item

theorem Next.not_mem {done : List Nat} {p : Nat} (h : P.Next done p) : p ∉ done := by
  cases h with
  | ready h _ => exact h.2.1
  | forced _ left _ _ => exact left

theorem Ready.congr {done done' : List Nat} {p : Nat} (hdone : ∀ q, q ∈ done ↔ q ∈ done')
    (h : P.Ready done p) : P.Ready done' p := by
  simpa only [Ready, hdone] using h

theorem Next.congr {done done' : List Nat} {p : Nat} (hdone : ∀ q, q ∈ done ↔ q ∈ done')
    (h : P.Next done p) : P.Next done' p := by
  cases h with
  | ready h earliest =>
    exact .ready (h.congr hdone) fun q hq => earliest q (hq.congr fun r => (hdone r).symm)
  | forced item left stuck earliest =>
    refine .forced item (by rwa [← hdone]) (fun q hq => ?_) fun q hq hleft => ?_
    · exact stuck q (hq.congr fun r => (hdone r).symm)
    · exact earliest q hq (by rwa [hdone])

theorem Next.le_of_ready {done : List Nat} {p q : Nat} (h : P.Next done p)
    (hq : P.Ready done q) : p ≤ q := by
  cases h with
  | ready _ earliest => exact earliest q hq
  | forced _ _ _ earliest => exact earliest q hq.1 hq.2.1

theorem Next.le {done : List Nat} {p q : Nat} (h : P.Next done p) (h' : P.Next done q) :
    p ≤ q := by
  cases h' with
  | ready hq _ => exact h.le_of_ready hq
  | forced item left stuck _ =>
    cases h with
    | ready hp _ => exact absurd hp (stuck p)
    | forced _ _ _ earliest => exact earliest q item left

theorem Next.unique {done : List Nat} {p q : Nat} (h : P.Next done p) (h' : P.Next done q) :
    p = q :=
  Nat.le_antisymm (h.le h') (h'.le h)

theorem Next.le_of_free {done : List Nat} {p q : Nat} (h : P.Next done p)
    (hfree : ∀ r, ¬ P.before r q) (hq : P.item q) (hleft : q ∉ done) : p ≤ q :=
  h.le_of_ready ⟨hq, hleft, fun r hr => absurd hr (hfree r)⟩

/-! ## Held up or freed -/

private theorem le_of_cycle {b q p : Nat} (hcycle : TransGen (P.From b) q q)
    (hway : ReflTransGen (P.From b) q p) : b ≤ p := by
  rcases hway.cases_tail with heq | ⟨u, _, hu⟩
  · obtain ⟨u, _, hu⟩ := TransGen.tail'_iff.mp hcycle
    rw [heq]
    exact hu.2.2
  · exact hu.2.2

/-- On the way from a cycle there is always one more position to wait on. -/
private theorem heldUp_before {b p : Nat} (h : P.HeldUp b p) :
    ∃ q, P.before q p ∧ P.HeldUp b q := by
  obtain ⟨k, hcycle, hway⟩ := h
  rcases hway.cases_tail with heq | ⟨u, hku, hup⟩
  · obtain ⟨u, hku, huk⟩ := TransGen.tail'_iff.mp hcycle
    exact ⟨u, heq ▸ huk.1, k, hcycle, hku⟩
  · exact ⟨u, hup.1, k, hcycle, hku⟩

theorem HeldUp.of_before {b p q : Nat} (h : P.HeldUp b p) (hpq : P.before p q) (hq : b ≤ q) :
    P.HeldUp b q := by
  obtain ⟨k, hcycle, hway⟩ := h
  exact ⟨k, hcycle, hway.tail ⟨hpq, le_of_cycle hcycle hway, hq⟩⟩

theorem Freed.not_heldUp {b p : Nat} (h : P.Freed b p) : ¬ P.HeldUp b p := by
  induction h with
  | early hlt =>
    intro hheld
    obtain ⟨k, hcycle, hway⟩ := hheld
    have hle := le_of_cycle hcycle hway
    omega
  | after _ ih =>
    intro hheld
    obtain ⟨q, hq, hq'⟩ := heldUp_before hheld
    exact ih q hq hq'

variable (P) in
/-- The positions of an order from which demands lead to `p` without passing `b`. -/
private abbrev Behind (order : List Nat) (b p : Nat) : Type :=
  { q : Nat // q ∈ order ∧ ReflTransGen (P.From b) q p }

private theorem wellFounded_behind {order : List Nat} {b p : Nat} (h : ¬ P.HeldUp b p) :
    WellFounded fun u v : P.Behind order b p => TransGen (P.From b) u.1 v.1 := by
  have : Finite (P.Behind order b p) :=
    Finite.of_injective (fun q => (⟨q.1, q.2.1⟩ : { q : Nat // q ∈ order }))
      fun u v huv => Subtype.ext (Subtype.mk.inj huv)
  have : IsTrans (P.Behind order b p) fun u v => TransGen (P.From b) u.1 v.1 :=
    ⟨fun _ _ _ huv hvw => TransGen.trans huv hvw⟩
  have : Std.Irrefl fun u v : P.Behind order b p => TransGen (P.From b) u.1 v.1 :=
    ⟨fun u hu => h ⟨u.1, hu, u.2.2⟩⟩
  exact Finite.wellFounded_of_trans_of_irrefl _

/-- Without a cycle before it a position is freed: going back along the demands leads through
finitely many positions, none of them twice, so it comes to an end. -/
theorem freed_of_not_heldUp {order : List Nat} {b p : Nat} (hmem : ∀ q, P.item q → q ∈ order)
    (h : ¬ P.HeldUp b p) : P.Freed b p := by
  have hback : ∀ u : P.Behind order b p, P.Freed b u.1 := by
    intro u
    induction u using (wellFounded_behind h).induction with
    | _ u ih =>
      by_cases hub : u.1 < b
      · exact .early hub
      refine .after fun q hq => ?_
      by_cases hqb : q < b
      · exact .early hqb
      have hqu : P.From b q u.1 := ⟨hq, by omega, by omega⟩
      exact ih ⟨q, hmem q (P.left_item hq), u.2.2.head hqu⟩ (.single hqu)
  by_cases hp : p ∈ order
  · exact hback ⟨p, hp, .refl⟩
  · exact .after fun q hq => absurd (hmem p (P.right_item hq)) hp

/-! ## Where a schedule keeps a demand -/

private theorem idxOf_lt_split_iff {done rest : List Nat} {p c : Nat} (hp : p ∉ done) :
    (done ++ p :: rest).idxOf c < (done ++ p :: rest).idxOf p ↔ c ∈ done := by
  rw [List.idxOf_append_of_notMem hp, List.idxOf_cons_self]
  by_cases hc : c ∈ done
  · rw [List.idxOf_append_of_mem hc]
    have hlt := List.idxOf_lt_length_of_mem hc
    simp only [hc, iff_true]
    omega
  · rw [List.idxOf_append_of_notMem hc]
    simp only [hc, iff_false]
    omega

namespace Schedule

variable {order : List Nat}

private theorem split (h : P.Schedule order) {p : Nat} (hp : P.item p) :
    ∃ done rest, order = done ++ p :: rest ∧ P.Next done p := by
  obtain ⟨done, rest, hsplit⟩ := List.append_of_mem ((h.mem_iff p).mpr hp)
  exact ⟨done, rest, hsplit, h.next done p rest hsplit⟩

theorem nodup (h : P.Schedule order) : order.Nodup := by
  have hinit : ∀ done rest, order = done ++ rest → done.Nodup := by
    intro done
    induction done using List.reverseRecOn with
    | nil => simp
    | append_singleton done p ih =>
      intro rest hsplit
      have hsplit' : order = done ++ p :: rest := by simpa using hsplit
      have hp := (h.next done p rest hsplit').not_mem
      exact (ih (p :: rest) hsplit').append (by simp) (by simpa using hp)
  exact hinit order [] (by simp)

private theorem eq_nil_of_append {rest : List Nat} (h : P.Schedule order)
    (h' : P.Schedule (order ++ rest)) : rest = [] := by
  cases rest with
  | nil => rfl
  | cons p rest =>
    have hnext := h'.next order p rest rfl
    exact absurd ((h.mem_iff p).mpr hnext.item) hnext.not_mem

/-- The demands leave no choice: there is only one schedule of them. -/
theorem unique {order' : List Nat} (h : P.Schedule order) (h' : P.Schedule order') :
    order = order' := by
  -- by induction on what is left after the part that both have in common
  have hrest : ∀ rest rest' done, order = done ++ rest → order' = done ++ rest' →
      rest = rest' := by
    intro rest
    induction rest with
    | nil =>
      intro rest' done hsplit hsplit'
      rw [List.append_nil] at hsplit
      exact (eq_nil_of_append (hsplit ▸ h) (hsplit' ▸ h')).symm
    | cons p rest ih =>
      intro rest' done hsplit hsplit'
      cases rest' with
      | nil =>
        rw [List.append_nil] at hsplit'
        exact eq_nil_of_append (hsplit' ▸ h') (hsplit ▸ h)
      | cons q rest' =>
        obtain rfl := (h.next done p rest hsplit).unique (h'.next done q rest' hsplit')
        rw [ih rest' (done ++ [p]) (by simpa using hsplit) (by simpa using hsplit')]
  exact hrest order order' [] rfl rfl

/-- What is placed before `c` is freed, because only positions before `c` are forced. -/
private theorem freed_of_placed (h : P.Schedule order) {c : Nat} (hc : P.item c)
    (done : List Nat) : ∀ rest, order = done ++ rest → c ∉ done → ∀ p ∈ done, P.Freed c p := by
  induction done using List.reverseRecOn with
  | nil => simp
  | append_singleton done x ih =>
    intro rest hsplit hleft p hp
    simp only [List.mem_append, List.mem_singleton, not_or] at hleft hp
    have hsplit' : order = done ++ x :: rest := by simpa using hsplit
    have hdone := ih (x :: rest) hsplit' hleft.1
    rcases hp with hp | rfl
    · exact hdone p hp
    cases h.next done p rest hsplit' with
    | ready hready _ => exact .after fun q hq => hdone q (hready.2.2 q hq)
    | forced _ _ _ earliest =>
      have hle := earliest c hc hleft.1
      exact .early (by omega)

/-- When a position is forced, all that can be freed is placed. -/
private theorem placed_of_freed {done : List Nat} {c p : Nat} (stuck : ∀ q, ¬ P.Ready done q)
    (earliest : ∀ q, P.item q → q ∉ done → c ≤ q) (hfreed : P.Freed c p) (hp : P.item p) :
    p ∈ done := by
  by_contra hleft
  induction hfreed with
  | early hlt =>
    have hle := earliest _ hp hleft
    omega
  | after _ ih =>
    refine stuck _ ⟨hp, hleft, fun q hq => ?_⟩
    by_contra hq'
    exact ih q hq (P.left_item hq) hq'

/-- A position that is held up comes after the one that it is held up at. -/
theorem idxOf_lt_of_heldUp (h : P.Schedule order) {p q : Nat} (hp : P.item p) (hpq : p ≠ q)
    (hheld : P.HeldUp p q) : order.idxOf p < order.idxOf q := by
  obtain ⟨done, rest, hsplit, hnext⟩ := h.split hp
  have hne : order.idxOf p ≠ order.idxOf q :=
    (List.idxOf_inj ((h.mem_iff p).mpr hp)).not.mpr hpq
  refine hne.lt_or_gt.resolve_right fun hgt => ?_
  rw [hsplit, idxOf_lt_split_iff hnext.not_mem] at hgt
  have hfreed := h.freed_of_placed hp done (p :: rest) hsplit hnext.not_mem q hgt
  exact hfreed.not_heldUp hheld

/-- What is not held up at a position comes before it, if the position waits for it or, being held
up itself, has to be forced. -/
theorem idxOf_lt_of_not_heldUp (h : P.Schedule order) {p q : Nat} (hp : P.item p)
    (hq : P.item q) (hwait : P.before q p ∨ P.HeldUp p p) (hfree : ¬ P.HeldUp p q) :
    order.idxOf q < order.idxOf p := by
  obtain ⟨done, rest, hsplit, hnext⟩ := h.split hp
  rw [hsplit, idxOf_lt_split_iff hnext.not_mem]
  cases hnext with
  | ready hready _ =>
    rcases hwait with hbefore | hheld
    · exact hready.2.2 q hbefore
    · have hplaced := h.freed_of_placed hp done (p :: rest) hsplit hready.2.1
      have hfreed : P.Freed p p := .after fun r hr => hplaced r (hready.2.2 r hr)
      exact absurd hheld hfreed.not_heldUp
  | forced _ _ stuck earliest =>
    have hfreed := freed_of_not_heldUp (fun r hr => (h.mem_iff r).mpr hr) hfree
    exact placed_of_freed stuck earliest hfreed hq

/-- A demand is kept if and only if the earlier position is not held up. -/
theorem idxOf_lt_iff (h : P.Schedule order) {p c : Nat} (hpc : P.before p c) :
    order.idxOf p < order.idxOf c ↔ ¬ P.HeldUp c p := by
  have hp := P.left_item hpc
  have hc := P.right_item hpc
  constructor
  · intro hlt hheld
    have hgt := h.idxOf_lt_of_heldUp hc (P.ne hpc).symm hheld
    omega
  · exact h.idxOf_lt_of_not_heldUp hc hp (.inl hpc)

/-- A position comes before a later one if all that it waits for does. -/
theorem idxOf_lt_of_before (h : P.Schedule order) {p q : Nat} (hp : P.item p) (hq : P.item q)
    (hpq : p < q) (hwait : ∀ r, P.before r p → order.idxOf r < order.idxOf q) :
    order.idxOf p < order.idxOf q := by
  obtain ⟨done, rest, hsplit, hnext⟩ := h.split hq
  rw [hsplit] at hwait ⊢
  simp only [idxOf_lt_split_iff hnext.not_mem] at hwait ⊢
  by_contra hleft
  have hle := hnext.le_of_ready ⟨hp, hleft, hwait⟩
  omega

/-- Of two positions the earlier one comes first if and only if the other one is held up at it
or, unless it is held up itself, all that it waits for comes before the other one. -/
theorem idxOf_lt_iff_of_lt (h : P.Schedule order) {p q : Nat} (hp : P.item p) (hq : P.item q)
    (hpq : p < q) : order.idxOf p < order.idxOf q ↔
      P.HeldUp p q ∨ ¬ P.HeldUp p p ∧ ∀ r, P.before r p → order.idxOf r < order.idxOf q := by
  constructor
  · intro hlt
    by_cases hheld : P.HeldUp p q
    · exact .inl hheld
    have hfree : ¬ P.HeldUp p p := by
      intro hself
      have hgt := h.idxOf_lt_of_not_heldUp hp hq (.inr hself) hheld
      omega
    refine .inr ⟨hfree, fun r hr => ?_⟩
    have hrp := (h.idxOf_lt_iff hr).mpr fun hheld => hfree (hheld.of_before hr (Nat.le_refl p))
    exact hrp.trans hlt
  · rintro (hheld | ⟨_, hwait⟩)
    · exact h.idxOf_lt_of_heldUp hp hpq.ne hheld
    · exact h.idxOf_lt_of_before hp hq hpq hwait

theorem pairwise_of_acyclic (h : P.Schedule order)
    (hacyclic : ∀ p, ¬ TransGen P.before p p) : order.Pairwise fun p q => ¬ P.before q p := by
  have hindex : order.Pairwise fun p q => order.idxOf p < order.idxOf q := by
    rw [List.pairwise_iff_getElem]
    intro i j hi hj hij
    rwa [h.nodup.idxOf_getElem i hi, h.nodup.idxOf_getElem j hj]
  refine hindex.imp fun {p q} hlt hqp => ?_
  have hkept := (h.idxOf_lt_iff hqp).mpr fun ⟨k, hcycle, _⟩ =>
    hacyclic k (TransGen.mono (fun _ _ hstep => hstep.1) k k hcycle)
  omega

/-- Without demands the order is ascending. -/
theorem pairwise_lt_of_free (h : P.Schedule order) (hfree : ∀ p q, ¬ P.before p q) :
    order.Pairwise (· < ·) := by
  -- by induction on what is left: the next one is the earliest of it, since none of it waits
  have hrest : ∀ rest done, order = done ++ rest → rest.Pairwise (· < ·) := by
    intro rest
    induction rest with
    | nil => simp
    | cons p rest ih =>
      intro done hsplit
      refine List.pairwise_cons.mpr ⟨fun q hq => ?_, ih (done ++ [p]) (by simpa using hsplit)⟩
      have hnodup := h.nodup
      rw [hsplit, List.nodup_append] at hnodup
      have hitem : P.item q := (h.mem_iff q).mp (by simp [hsplit, hq])
      have hleft : q ∉ done := fun hdone =>
        hnodup.2.2 q hdone q (List.mem_cons_of_mem _ hq) rfl
      have hle := (h.next done p rest hsplit).le_of_free (fun r => hfree r q) hitem hleft
      have hne : p ≠ q := by
        rintro rfl
        exact (List.nodup_cons.mp hnodup.2.1).1 hq
      omega
  exact hrest order [] rfl

end Schedule

/-! ## Other names for the positions -/

/-- The positions of `P` are those of `Q` under other names, with the same demands. -/
structure Renames (P Q : Precedence) (g : Nat → Nat) : Prop where
  injective {p q : Nat} : P.item p → P.item q → g p = g q → p = q
  item_iff (i : Nat) : Q.item i ↔ ∃ p, P.item p ∧ g p = i
  before_iff {p q : Nat} : P.item p → P.item q → (Q.before (g p) (g q) ↔ P.before p q)

namespace Renames

variable {Q : Precedence} {g : Nat → Nat} {done order : List Nat} {p : Nat}

theorem item (h : Renames P Q g) (hp : P.item p) : Q.item (g p) :=
  (h.item_iff _).mpr ⟨p, hp, rfl⟩

theorem mem_map_iff (h : Renames P Q g) (hdone : ∀ q ∈ done, P.item q) (hp : P.item p) :
    g p ∈ done.map g ↔ p ∈ done := by
  constructor
  · intro hmem
    obtain ⟨q, hq, heq⟩ := List.mem_map.mp hmem
    rwa [← h.injective (hdone q hq) hp heq]
  · exact List.mem_map_of_mem

theorem ready_iff (h : Renames P Q g) (hdone : ∀ q ∈ done, P.item q) (hp : P.item p) :
    Q.Ready (done.map g) (g p) ↔ P.Ready done p := by
  simp only [Ready, h.mem_map_iff hdone hp, hp, h.item hp, true_and, and_congr_right_iff]
  intro _
  constructor
  · intro hall q hq
    have hqi := P.left_item hq
    exact (h.mem_map_iff hdone hqi).mp (hall (g q) ((h.before_iff hqi hp).mpr hq))
  · intro hall i hi
    obtain ⟨q, hq, rfl⟩ := (h.item_iff i).mp (Q.left_item hi)
    exact (h.mem_map_iff hdone hq).mpr (hall q ((h.before_iff hq hp).mp hi))

/-- Positions that are named in the order of a schedule have their own order as a schedule: the
next one is the earliest that is left, whether it is ready or forced. -/
theorem schedule_of_map (h : Renames P Q g) (hascending : order.Pairwise (· < ·))
    (hitem : ∀ p ∈ order, P.item p) (hmap : Q.Schedule (order.map g)) : P.Schedule order := by
  have hmem : ∀ p, p ∈ order ↔ P.item p := by
    intro p
    refine ⟨hitem p, fun hp => ?_⟩
    exact (h.mem_map_iff hitem hp).mp ((hmap.mem_iff (g p)).mpr (h.item hp))
  refine ⟨hmem, fun done p rest hsplit => ?_⟩
  have hp : P.item p := hitem p (by simp [hsplit])
  have hdone : ∀ q ∈ done, P.item q := fun q hq => hitem q (by simp [hsplit, hq])
  rw [hsplit, List.pairwise_append] at hascending
  have hearliest : ∀ q, P.item q → q ∉ done → p ≤ q := by
    intro q hq hleft
    have hq' : q ∈ done ++ p :: rest := hsplit ▸ (hmem q).mpr hq
    rcases List.mem_cons.mp ((List.mem_append.mp hq').resolve_left hleft) with rfl | hq'
    · exact le_refl _
    · exact ((List.pairwise_cons.mp hascending.2.1).1 q hq').le
  cases hmap.next (done.map g) (g p) (rest.map g) (by simp [hsplit]) with
  | ready hready _ =>
    exact .ready ((h.ready_iff hdone hp).mp hready) fun q hq => hearliest q hq.1 hq.2.1
  | forced _ left stuck _ =>
    refine .forced hp (by rwa [h.mem_map_iff hdone hp] at left) (fun q hq => ?_) hearliest
    exact stuck (g q) ((h.ready_iff hdone hq.1).mpr hq)

end Renames

/-- The positions of `P` are those of `Q`, in the same order and under the same demands. -/
structure Embeds (P Q : Precedence) (g : Nat → Nat) : Prop where
  lt {p q : Nat} : P.item p → P.item q → p < q → g p < g q
  item_iff (i : Nat) : Q.item i ↔ ∃ p, P.item p ∧ g p = i
  before_iff {p q : Nat} : P.item p → P.item q → (Q.before (g p) (g q) ↔ P.before p q)

namespace Embeds

variable {Q : Precedence} {g : Nat → Nat} {done : List Nat} {p q : Nat}

theorem le (h : Embeds P Q g) (hp : P.item p) (hq : P.item q) (hpq : p ≤ q) : g p ≤ g q := by
  rcases hpq.eq_or_lt with rfl | hlt
  · exact le_refl _
  · exact (h.lt hp hq hlt).le

theorem renames (h : Embeds P Q g) : Renames P Q g := by
  refine ⟨fun {p q} hp hq heq => ?_, h.item_iff, h.before_iff⟩
  rcases lt_trichotomy p q with hlt | hpq | hlt
  · exact absurd heq (h.lt hp hq hlt).ne
  · exact hpq
  · exact absurd heq (h.lt hq hp hlt).ne'

theorem next (h : Embeds P Q g) (hdone : ∀ q ∈ done, P.item q) (hnext : P.Next done p) :
    Q.Next (done.map g) (g p) := by
  have hp := hnext.item
  cases hnext with
  | ready hready earliest =>
    refine .ready ((h.renames.ready_iff hdone hp).mpr hready) fun i hi => ?_
    obtain ⟨q, hq, rfl⟩ := (h.item_iff i).mp hi.1
    exact h.le hp hq (earliest q ((h.renames.ready_iff hdone hq).mp hi))
  | forced _ left stuck earliest =>
    refine .forced (h.renames.item hp) (by rwa [h.renames.mem_map_iff hdone hp])
      (fun i hi => ?_) fun i hi hleft => ?_
    · obtain ⟨q, hq, rfl⟩ := (h.item_iff i).mp hi.1
      exact stuck q ((h.renames.ready_iff hdone hq).mp hi)
    · obtain ⟨q, hq, rfl⟩ := (h.item_iff i).mp hi
      rw [h.renames.mem_map_iff hdone hq] at hleft
      exact h.le hp hq (earliest q hq hleft)

theorem schedule (h : Embeds P Q g) {order : List Nat} (horder : P.Schedule order) :
    Q.Schedule (order.map g) := by
  constructor
  · intro i
    rw [h.item_iff, List.mem_map]
    simp only [horder.mem_iff]
  · intro done' i rest' hsplit
    obtain ⟨done, tail, heq, rfl, htail⟩ := List.map_eq_append_iff.mp hsplit
    obtain ⟨p, rest, rfl, rfl, rfl⟩ := List.map_eq_cons_iff.mp htail
    exact h.next (fun q hq => (horder.mem_iff q).mp (by simp [heq, hq]))
      (horder.next done p rest heq)

end Embeds

end Precedence

end Rollout.Batch
