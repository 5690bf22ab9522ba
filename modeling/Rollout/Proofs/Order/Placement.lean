import Mathlib.Data.List.Perm.Subperm
import Rollout.Batch.Order
import Rollout.Proofs.Order.Schedule

/-!
# Placing positions

After every step each position waits on the edges into it from positions not yet placed, the
ready ones are those that wait on none, and nothing before the next unplaced one is left. So
every step places the position that a schedule places next, and the positions sorted along
some edges are a schedule of the demands of the edges.
-/

namespace Rollout.Batch

/-- The demands of edges between the positions below `n`. An edge of a position to itself
demands nothing. -/
def Precedence.ofEdges (n : Nat) (edges : List Edge) : Precedence where
  item p := p < n
  before p q := (p, q) ∈ edges ∧ p ≠ q ∧ p < n ∧ q < n
  left_item h := h.2.2.1
  right_item h := h.2.2.2
  ne h := h.2.1

namespace Placement

/-- The number of edges into a position from positions not yet placed. -/
def waiting (edges : List Edge) (done : List Nat) (p : Nat) : Nat :=
  edges.countP fun e => e.2 = p ∧ e.1 ∉ done

/-- The fields of a placement agree with the positions placed and with the number of edges
that each position is taken to wait on. -/
structure Tracks (n : Nat) (count : Nat → Nat) (s : Placement) : Prop where
  nodup : s.reversed.Nodup
  bound : ∀ p ∈ s.reversed, p < n
  placed : s.placed = (List.range n).map fun p => decide (p ∈ s.reversed)
  waitingOn : s.waitingOn = (List.range n).map count
  sorted : s.ready.Pairwise (· < ·)
  mem_ready : ∀ p, p ∈ s.ready ↔ p < n ∧ p ∉ s.reversed ∧ count p = 0
  below : ∀ p < s.nextUnplaced, p ∈ s.reversed

/-- What holds after every step: the placement is up to date, and each position was placed
when it was its turn. -/
structure Sound (n : Nat) (edges : List Edge) (s : Placement) : Prop where
  tracks : s.Tracks n (waiting (properEdges edges) s.reversed)
  chosen : ∀ later p earlier, s.reversed = later ++ p :: earlier →
    (Precedence.ofEdges n edges).Next earlier p

/-! ## Lists of positions -/

private theorem mem_insertAscending {p q : Nat} {positions : List Nat} :
    q ∈ insertAscending p positions ↔ q = p ∨ q ∈ positions := by
  induction positions with
  | nil => simp [insertAscending]
  | cons r rest ih =>
    simp only [insertAscending]
    split
    · simp
    split
    · rename_i heq
      simp [heq]
    · simp only [List.mem_cons, ih]
      tauto

private theorem sorted_insertAscending {p : Nat} {positions : List Nat}
    (h : positions.Pairwise (· < ·)) : (insertAscending p positions).Pairwise (· < ·) := by
  induction positions with
  | nil => simp [insertAscending]
  | cons r rest ih =>
    have hrest := List.pairwise_cons.mp h
    simp only [insertAscending]
    split
    · rename_i hlt
      refine List.pairwise_cons.mpr ⟨fun q hq => ?_, h⟩
      rcases List.mem_cons.mp hq with rfl | hq
      · exact hlt
      · exact hlt.trans (hrest.1 q hq)
    split
    · exact h
    · rename_i hge hne
      refine List.pairwise_cons.mpr ⟨fun q hq => ?_, ih hrest.2⟩
      rcases mem_insertAscending.mp hq with rfl | hq
      · omega
      · exact hrest.1 q hq

theorem modify_map_range {n q : Nat} (count : Nat → Nat) (f : Nat → Nat) :
    ((List.range n).map count).modify q f =
      (List.range n).map (Function.update count q (f (count q))) := by
  refine List.ext_getElem (by simp) fun p hp _ => ?_
  by_cases hpq : p = q
  · simp [hpq]
  · simp [hpq, Ne.symm hpq]

private theorem set_map_range {α : Type} {n q : Nat} (f : Nat → α) (value : α) :
    ((List.range n).map f).set q value = (List.range n).map (Function.update f q value) := by
  refine List.ext_getElem (by simp) fun p hp _ => ?_
  by_cases hpq : p = q
  · simp [hpq]
  · simp [hpq, Ne.symm hpq]

private theorem takeWhile_spec {flags : List Bool} (h : false ∈ flags) :
    flags[(flags.takeWhile id).length]? = some false ∧
      ∀ q < (flags.takeWhile id).length, flags[q]? = some true := by
  induction flags with
  | nil => simp at h
  | cons flag rest ih =>
    cases flag with
    | false => simp
    | true =>
      obtain ⟨hstop, hbefore⟩ := ih (by simpa using h)
      refine ⟨by simpa using hstop, fun q hq => ?_⟩
      cases q with
      | zero => simp
      | succ q => simpa using hbefore q (by simpa using hq)

private theorem exists_unplaced {n : Nat} {done : List Nat} (hlt : done.length < n) :
    ∃ p < n, p ∉ done := by
  by_contra hall
  have hsub : List.range n ⊆ done := fun p hp => by
    by_contra hp'
    exact hall ⟨p, List.mem_range.mp hp, hp'⟩
  have hle := (List.nodup_range.subperm hsub).length_le
  rw [List.length_range] at hle
  omega

private theorem mem_of_length_eq {n p : Nat} {done : List Nat} (hnodup : done.Nodup)
    (hbound : ∀ q ∈ done, q < n) (hlength : done.length = n) (hp : p < n) : p ∈ done := by
  have hsub : done ⊆ List.range n := fun q hq => List.mem_range.mpr (hbound q hq)
  have hperm := (hnodup.subperm hsub).perm_of_length_le (by simp [hlength])
  exact hperm.mem_iff.mpr (List.mem_range.mpr hp)

/-! ## What one step does -/

variable {n : Nat} {edges : List Edge} {s : Placement}

@[simp] theorem release_reversed (s : Placement) (q : Nat) :
    (release s q).reversed = s.reversed := by
  simp only [release]
  split <;> rfl

private theorem foldl_release_reversed (s : Placement) (qs : List Nat) :
    (qs.foldl release s).reversed = s.reversed := by
  induction qs generalizing s with
  | nil => rfl
  | cons q qs ih => rw [List.foldl_cons, ih, release_reversed]

private theorem Tracks.after_release {count : Nat → Nat} (h : s.Tracks n count) (q : Nat) :
    (release s q).Tracks n (Function.update count q (count q - 1)) := by
  have hwaiting : s.waitingOn.modify q (· - 1) =
      (List.range n).map (Function.update count q (count q - 1)) := by
    rw [h.waitingOn, modify_map_range]
  have hready : (s.waitingOn.modify q (· - 1))[q]? = some 0 ∧ s.placed[q]? = some false ↔
      q < n ∧ q ∉ s.reversed ∧ count q - 1 = 0 := by
    rw [hwaiting, h.placed]
    by_cases hq : q < n <;> simp [hq, and_comm]
  simp only [release]
  split
  · rename_i hcond
    obtain ⟨hq, hleft, hzero⟩ := hready.mp hcond
    refine { h with
      waitingOn := hwaiting
      sorted := sorted_insertAscending h.sorted
      mem_ready := fun p => ?_ }
    rw [mem_insertAscending, h.mem_ready]
    by_cases hpq : p = q
    · simp [hpq, hq, hleft, hzero]
    · simp [hpq]
  · rename_i hcond
    rw [hready] at hcond
    refine { h with waitingOn := hwaiting, mem_ready := fun p => ?_ }
    rw [h.mem_ready]
    by_cases hpq : p = q
    · subst hpq
      simp only [Function.update_self]
      constructor
      · intro hready
        obtain ⟨hp, hleft, hzero⟩ := hready
        exact ⟨hp, hleft, by omega⟩
      · intro hready
        obtain ⟨hp, hleft, hzero⟩ := hready
        exact absurd ⟨hp, hleft, hzero⟩ hcond
    · simp [hpq]

private theorem Tracks.after_releases {count : Nat → Nat} (h : s.Tracks n count)
    (qs : List Nat) : (qs.foldl release s).Tracks n fun q => count q - qs.count q := by
  induction qs generalizing s count with
  | nil => simpa using h
  | cons q qs ih =>
    have hcount : (fun r => Function.update count q (count q - 1) r - qs.count r) =
        fun r => count r - (q :: qs).count r := by
      funext r
      by_cases hrq : r = q
      · subst hrq
        simp only [Function.update_self, List.count_cons_self]
        omega
      · simp [hrq, List.count_cons_of_ne (Ne.symm hrq)]
    rw [List.foldl_cons, ← hcount]
    exact ih (h.after_release q)

/-- The edges from a position are those that it takes with it when it is placed. -/
theorem waiting_eq_add {done : List Nat} {p : Nat} (hp : p ∉ done) (q : Nat) :
    waiting edges done q = (successors edges p).count q + waiting edges (p :: done) q := by
  induction edges with
  | nil => rfl
  | cons e edges ih =>
    simp only [waiting, successors, List.countP_cons, List.filter_cons, List.mem_cons,
      decide_eq_true_eq] at ih ⊢
    rw [ih]
    by_cases hep : e.1 = p
    · by_cases heq : e.2 = q
      · simp [hep, heq, hp]
        omega
      · simp [hep, heq]
    · by_cases heq : e.2 = q
      · simp [hep, heq]
        omega
      · simp [hep, heq]

/-- Placing a position keeps a placement up to date, if the position is taken from the ready
ones and all before the new `next` are placed. -/
private theorem Tracks.after_place {p next : Nat} {rest : List Nat}
    (h : s.Tracks n (waiting edges s.reversed)) (hp : p < n) (hleft : p ∉ s.reversed)
    (hsorted : rest.Pairwise (· < ·)) (hrest : ∀ q, q ∈ rest ↔ q ∈ s.ready ∧ q ≠ p)
    (hnext : ∀ q < next, q ∈ s.reversed) :
    (place edges { s with ready := rest, nextUnplaced := next } p).Tracks n
      (waiting edges (p :: s.reversed)) := by
  have hcount : (fun q => waiting edges s.reversed q - (successors edges p).count q) =
      waiting edges (p :: s.reversed) := by
    funext q
    rw [waiting_eq_add hleft q]
    omega
  rw [← hcount]
  apply Tracks.after_releases
  refine ⟨List.nodup_cons.mpr ⟨hleft, h.nodup⟩, ?_, ?_, h.waitingOn, hsorted, ?_, ?_⟩
  · intro q hq
    rcases List.mem_cons.mp hq with rfl | hq
    · exact hp
    · exact h.bound q hq
  · have hupdate : Function.update (fun q => decide (q ∈ s.reversed)) p true =
        fun q => decide (q ∈ p :: s.reversed) := by
      funext q
      by_cases hqp : q = p <;> simp [hqp]
    simp only [h.placed, set_map_range, hupdate]
  · intro q
    rw [hrest, h.mem_ready]
    simp only [List.mem_cons, not_or]
    tauto
  · intro q hq
    exact List.mem_cons_of_mem p (hnext q hq)

@[simp] theorem place_reversed (edges : List Edge) (s : Placement) (p : Nat) :
    (place edges s p).reversed = p :: s.reversed := by
  rw [place, foldl_release_reversed]

private theorem ready_iff (hbound : ∀ e ∈ edges, e.1 < n ∧ e.2 < n) {done : List Nat}
    {p : Nat} : (Precedence.ofEdges n edges).Ready done p ↔
      p < n ∧ p ∉ done ∧ waiting (properEdges edges) done p = 0 := by
  have hzero : waiting (properEdges edges) done p = 0 ↔
      ∀ q, (q, p) ∈ edges → q ≠ p → q ∈ done := by
    simp only [waiting, properEdges, List.countP_eq_zero, List.mem_filter, decide_eq_true_eq,
      not_and, not_not]
    constructor
    · intro h q hq hne
      exact h (q, p) ⟨hq, hne⟩ rfl
    · rintro h ⟨q, r⟩ ⟨hq, hne⟩ rfl
      exact h q hq hne
  rw [hzero]
  constructor
  · intro hready
    obtain ⟨hp, hleft, hdone⟩ := hready
    exact ⟨hp, hleft, fun q hq hne =>
      hdone q ⟨hq, hne, (hbound _ hq).1, (hbound _ hq).2⟩⟩
  · intro hready
    obtain ⟨hp, hleft, hdone⟩ := hready
    exact ⟨hp, hleft, fun q hq => hdone q hq.1 hq.2.1⟩

theorem firstUnplaced_spec {count : Nat → Nat} (h : s.Tracks n count)
    (hlt : s.reversed.length < n) :
    firstUnplaced s.placed s.nextUnplaced < n ∧
      firstUnplaced s.placed s.nextUnplaced ∉ s.reversed ∧
      ∀ q < firstUnplaced s.placed s.nextUnplaced, q ∈ s.reversed := by
  have hflag : ∀ q flag, s.placed[q]? = some flag ↔ q < n ∧ (q ∈ s.reversed ↔ flag = true) := by
    intro q flag
    rw [h.placed]
    by_cases hq : q < n
    · cases flag <;> simp [hq]
    · simp [hq]
  obtain ⟨p, hp, hleft⟩ := exists_unplaced hlt
  have hnext : s.nextUnplaced ≤ p := by
    by_contra hge
    exact hleft (h.below p (by omega))
  have hmem : false ∈ s.placed.drop s.nextUnplaced := by
    refine List.mem_of_getElem? (i := p - s.nextUnplaced) ?_
    rw [List.getElem?_drop, show s.nextUnplaced + (p - s.nextUnplaced) = p by omega, hflag]
    simp [hp, hleft]
  obtain ⟨hstop, hbefore⟩ := takeWhile_spec hmem
  rw [List.getElem?_drop, hflag] at hstop
  refine ⟨hstop.1, fun hmem => absurd (hstop.2.mp hmem) (by simp), fun q hq => ?_⟩
  by_cases hq' : q < s.nextUnplaced
  · exact h.below q hq'
  · have hplaced := hbefore (q - s.nextUnplaced) (by simp only [firstUnplaced] at hq; omega)
    rw [List.getElem?_drop, show s.nextUnplaced + (q - s.nextUnplaced) = q by omega,
      hflag] at hplaced
    simpa using hplaced.2

/-- A step places the position whose turn it is. -/
theorem Sound.step (hbound : ∀ e ∈ edges, e.1 < n ∧ e.2 < n) (h : s.Sound n edges)
    (hlt : s.reversed.length < n) :
    ∃ p, (step (properEdges edges) s).reversed = p :: s.reversed ∧
      (step (properEdges edges) s).Sound n edges := by
  have hready : ∀ q, q ∈ s.ready ↔ (Precedence.ofEdges n edges).Ready s.reversed q := by
    intro q
    rw [h.tracks.mem_ready, ready_iff hbound]
  have hplaced : ∀ {p : Nat} {t : Placement}, t.reversed = p :: s.reversed →
      (Precedence.ofEdges n edges).Next s.reversed p →
      t.Tracks n (waiting (properEdges edges) (p :: s.reversed)) →
      ∃ p, t.reversed = p :: s.reversed ∧ t.Sound n edges := by
    intro p t hreversed hnext htracks
    refine ⟨p, hreversed, hreversed ▸ htracks, ?_⟩
    intro later q earlier hsplit
    rw [hreversed] at hsplit
    cases later with
    | nil =>
      obtain ⟨rfl, rfl⟩ := List.cons.inj hsplit
      exact hnext
    | cons _ later => exact h.chosen later q earlier (List.cons.inj hsplit).2
  cases hs : s.ready with
  | cons p rest =>
    have hp := (h.tracks.mem_ready p).mp (by simp [hs])
    have hsorted := List.pairwise_cons.mp (hs ▸ h.tracks.sorted)
    have hnext : (Precedence.ofEdges n edges).Next s.reversed p := by
      refine .ready ((hready p).mp (by simp [hs])) fun q hq => ?_
      rw [← hready, hs] at hq
      rcases List.mem_cons.mp hq with rfl | hq
      · exact le_refl _
      · exact (hsorted.1 q hq).le
    simp only [Placement.step, hs]
    refine hplaced (place_reversed _ _ _) hnext
      (h.tracks.after_place hp.1 hp.2.1 hsorted.2 (fun q => ?_) h.tracks.below)
    rw [hs, List.mem_cons]
    constructor
    · intro hq
      exact ⟨.inr hq, (hsorted.1 q hq).ne'⟩
    · rintro ⟨rfl | hq, hne⟩
      · exact absurd rfl hne
      · exact hq
  | nil =>
    obtain ⟨hp, hleft, hbelow⟩ := firstUnplaced_spec h.tracks hlt
    have hnext : (Precedence.ofEdges n edges).Next s.reversed
        (firstUnplaced s.placed s.nextUnplaced) := by
      refine .forced hp hleft (fun q hq => ?_) fun q _ hq => ?_
      · simpa [hs] using (hready q).mpr hq
      · by_contra hlt'
        exact hq (hbelow q (by omega))
    simp only [Placement.step, hs]
    exact hplaced (place_reversed _ _ _) hnext
      (h.tracks.after_place hp hleft .nil (by simp [hs]) hbelow)

theorem Sound.start (n : Nat) (edges : List Edge) :
    (start n (properEdges edges)).Sound n edges := by
  refine ⟨⟨.nil, by simp [Placement.start], ?_, ?_, ?_, ?_, by simp [Placement.start]⟩, ?_⟩
  · simp [Placement.start, List.map_const']
  · simp [Placement.start, waiting, List.countP_eq_length_filter]
  · exact List.pairwise_lt_range.filter _
  · intro p
    by_cases hp : p < n
    · simp [Placement.start, waiting, hp]
    · simp [Placement.start, hp]
  · simp [Placement.start]

/-- Every step places one more position, as long as one is left. -/
theorem Sound.steps (hbound : ∀ e ∈ edges, e.1 < n ∧ e.2 < n) (h : s.Sound n edges) (k : Nat)
    (hk : s.reversed.length + k ≤ n) :
    (steps (properEdges edges) k s).Sound n edges ∧
      (steps (properEdges edges) k s).reversed.length = s.reversed.length + k := by
  induction k generalizing s with
  | zero => exact ⟨h, rfl⟩
  | succ k ih =>
    obtain ⟨p, hreversed, hstep⟩ := h.step hbound (by omega)
    have hlength : (Placement.step (properEdges edges) s).reversed.length =
        s.reversed.length + 1 := by simp [hreversed]
    obtain ⟨hsound, hsteps⟩ := ih hstep (by omega)
    exact ⟨hsound, by rw [Placement.steps, hsteps, hlength]; omega⟩

end Placement

/-- The positions sorted along edges are a schedule of the demands of the edges. -/
theorem stableSort_schedule {n : Nat} {edges : List Edge}
    (hbound : ∀ e ∈ edges, e.1 < n ∧ e.2 < n) :
    (Precedence.ofEdges n edges).Schedule (stableSort n edges) := by
  obtain ⟨hsound, hlength⟩ := (Placement.Sound.start n edges).steps hbound n
    (by simp [Placement.start])
  have hlength' : (Placement.steps (Placement.properEdges edges) n
      (Placement.start n (Placement.properEdges edges))).reversed.length = n := by
    rw [hlength]
    simp [Placement.start]
  constructor
  · intro p
    rw [stableSort, List.mem_reverse]
    constructor
    · exact hsound.tracks.bound p
    · exact Placement.mem_of_length_eq hsound.tracks.nodup hsound.tracks.bound hlength'
  · intro done p rest hsplit
    rw [stableSort, List.reverse_eq_iff] at hsplit
    have hnext := hsound.chosen rest.reverse p done.reverse (by simpa using hsplit)
    exact hnext.congr fun q => List.mem_reverse

theorem stableSort_perm {n : Nat} {edges : List Edge} (hbound : ∀ e ∈ edges, e.1 < n ∧ e.2 < n) :
    (stableSort n edges).Perm (List.range n) := by
  have hsorted := stableSort_schedule hbound
  rw [List.perm_ext_iff_of_nodup hsorted.nodup List.nodup_range]
  intro p
  rw [hsorted.mem_iff, List.mem_range]
  rfl

/-- The items of a list at all its positions, in order. -/
theorem filterMap_range {α : Type} (xs : List α) :
    ((List.range xs.length).filterMap fun i => xs[i]?) = xs := by
  induction xs with
  | nil => rfl
  | cons x xs ih =>
    rw [List.length_cons, List.range_succ_eq_map, List.filterMap_cons, List.filterMap_map]
    simpa using ih

end Rollout.Batch
