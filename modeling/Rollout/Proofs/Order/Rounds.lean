import Rollout.Proofs.Order.Placement

/-!
# Rounds of placing

Placing positions one at a time could go wrong in a round: a position could be released more often
than it waits, the search for one that is left could pass the last one, or a position could be
placed twice. Rounds that check all this go through from the start on, whatever the edges between
the positions are, and after as many rounds as there are positions all of them are placed.
-/

namespace Rollout.Batch

namespace Placement

/-! ## Rounds with checks -/

/-- Releases a position if there is one and it still has an edge to wait on. -/
def release? (s : Placement) (position : Nat) : Option Placement :=
  if 0 < s.waitingOn.getD position 0 ∧ position < s.placed.length then some (s.release position)
  else none

/-- Places a position if there is one and it is not placed yet. -/
def place? (edges : List Edge) (s : Placement) (position : Nat) : Option Placement :=
  if s.placed[position]? = some false then
    (successors edges position).foldlM release?
      { s with placed := s.placed.set position true, reversed := position :: s.reversed }
  else none

/-- The first position from `next` on that is not placed, if there is one. -/
def firstUnplaced? (placed : List Bool) (next : Nat) : Option Nat :=
  ((placed.drop next).findIdx? fun flag => !flag).map (next + ·)

/-- A step that fails where something is not there or is counted below zero. -/
def step? (edges : List Edge) (s : Placement) : Option Placement :=
  match s.ready with
  | position :: ready => place? edges { s with ready } position
  | [] => (firstUnplaced? s.placed s.nextUnplaced).bind fun position =>
      place? edges { s with nextUnplaced := position } position

/-- The placements after so many rounds. A round is begun as long as fewer than `n` positions are
placed, and it is a step that does not fail. -/
inductive Reached (n : Nat) (edges : List Edge) : Nat → Placement → Prop where
  | start : Reached n edges 0 (start n edges)
  | round {k : Nat} {s t : Placement} (reached : Reached n edges k s)
    (left : s.reversed.length < n) (taken : step? edges s = some t) : Reached n edges (k + 1) t

/-! ## Every round goes through -/

variable {n : Nat} {edges : List Edge} {s : Placement}

@[simp] theorem release_waitingOn (s : Placement) (q : Nat) :
    (release s q).waitingOn = s.waitingOn.modify q (· - 1) := by
  simp only [release]
  split <;> rfl

@[simp] theorem release_placed (s : Placement) (q : Nat) : (release s q).placed = s.placed := by
  simp only [release]
  split <;> rfl

/-- Positions are released one after the other, if each waits on as many edges as it is released
times. -/
private theorem foldlM_release? {count : Nat → Nat} {qs : List Nat}
    (hwaiting : s.waitingOn = (List.range n).map count) (hplaced : s.placed.length = n)
    (hqs : ∀ q ∈ qs, q < n ∧ qs.count q ≤ count q) :
    qs.foldlM release? s = some (qs.foldl release s) := by
  induction qs generalizing s count with
  | nil => rfl
  | cons q qs ih =>
    have hq := hqs q List.mem_cons_self
    have hpositive : 0 < count q := by
      rw [List.count_cons_self] at hq
      omega
    have hrelease : release? s q = some (release s q) := by
      apply if_pos
      rw [hwaiting, hplaced]
      simpa [hq.1] using hpositive
    have hrest : ∀ r ∈ qs, r < n ∧ qs.count r ≤ Function.update count q (count q - 1) r := by
      intro r hr
      have hr' := hqs r (List.mem_cons_of_mem q hr)
      -- If it is released again, it has just been counted down.
      by_cases hrq : r = q
      · subst hrq
        rw [List.count_cons_self] at hr'
        rw [Function.update_self]
        omega
      · rw [List.count_cons_of_ne (Ne.symm hrq)] at hr'
        rwa [Function.update_of_ne hrq]
    rw [List.foldlM_cons, hrelease, List.foldl_cons]
    apply ih _ _ hrest
    · rw [release_waitingOn, hwaiting, modify_map_range]
    · rw [release_placed, hplaced]

private theorem Tracks.unplaced {count : Nat → Nat} (h : s.Tracks n count) {p : Nat} (hp : p < n)
    (hleft : p ∉ s.reversed) : s.placed[p]? = some false := by
  simp [h.placed, hp, hleft]

private theorem place?_eq {next p : Nat} {ready : List Nat} (hbound : ∀ e ∈ edges, e.2 < n)
    (h : s.Tracks n (waiting edges s.reversed)) (hp : p < n) (hleft : p ∉ s.reversed) :
    place? edges { s with ready, nextUnplaced := next } p =
      some (place edges { s with ready, nextUnplaced := next } p) := by
  rw [place?, if_pos (h.unplaced hp hleft), place]
  apply foldlM_release?
  · exact h.waitingOn
  · simp [h.placed]
  · intro q hq
    rw [waiting_eq_add hleft q]
    simp only [successors, List.mem_map, List.mem_filter] at hq
    obtain ⟨e, he, rfl⟩ := hq
    exact ⟨hbound e he.1, by omega⟩

private theorem findIdx?_eq_takeWhile {flags : List Bool} (h : false ∈ flags) :
    (flags.findIdx? fun flag => !flag) = some (flags.takeWhile id).length := by
  induction flags with
  | nil => simp at h
  | cons flag rest ih =>
    cases flag with
    | false => simp [List.findIdx?_cons]
    | true => simp [List.findIdx?_cons, ih (by simpa using h)]

private theorem firstUnplaced?_eq (h : s.Tracks n (waiting edges s.reversed))
    (hlt : s.reversed.length < n) : firstUnplaced? s.placed s.nextUnplaced =
      some (firstUnplaced s.placed s.nextUnplaced) := by
  obtain ⟨hp, hleft, _⟩ := firstUnplaced_spec h hlt
  have hmem : false ∈ s.placed.drop s.nextUnplaced := by
    have hunplaced := h.unplaced hp hleft
    rw [firstUnplaced, ← List.getElem?_drop] at hunplaced
    exact List.mem_of_getElem? hunplaced
  rw [firstUnplaced?, findIdx?_eq_takeWhile hmem]
  rfl

/-- A step from a sound placement does not fail while a position is left. -/
theorem Sound.step?_eq (hbound : ∀ e ∈ edges, e.1 < n ∧ e.2 < n) (h : s.Sound n edges)
    (hlt : s.reversed.length < n) :
    step? (properEdges edges) s = some (Placement.step (properEdges edges) s) := by
  have hproper : ∀ e ∈ properEdges edges, e.2 < n := fun e he =>
    (hbound e (List.mem_of_mem_filter he)).2
  cases hs : s.ready with
  | cons p ready =>
    have hp := (h.tracks.mem_ready p).mp (by simp [hs])
    simp only [step?, Placement.step, hs]
    exact place?_eq hproper h.tracks hp.1 hp.2.1
  | nil =>
    obtain ⟨hp, hleft, _⟩ := firstUnplaced_spec h.tracks hlt
    simp only [step?, Placement.step, hs, firstUnplaced?_eq h.tracks hlt, Option.bind_some]
    exact place?_eq hproper h.tracks hp hleft

/-- What a round keeps, all rounds keep. -/
theorem Reached.sound (hbound : ∀ e ∈ edges, e.1 < n ∧ e.2 < n) {k : Nat}
    (h : Reached n (properEdges edges) k s) : s.Sound n edges ∧ s.reversed.length = k := by
  induction h with
  | start => exact ⟨.start n edges, rfl⟩
  | round _ left taken ih =>
    obtain ⟨hsound, hlength⟩ := ih
    rw [hsound.step?_eq hbound left] at taken
    obtain ⟨p, hreversed, hstep⟩ := hsound.step hbound left
    rw [← Option.some.inj taken]
    exact ⟨hstep, by rw [hreversed, List.length_cons, hlength]⟩

theorem steps_succ (edges : List Edge) (k : Nat) (s : Placement) :
    steps edges (k + 1) s = step edges (steps edges k s) := by
  induction k generalizing s with
  | zero => rfl
  | succ k ih => exact ih (step edges s)

theorem reached_steps (hbound : ∀ e ∈ edges, e.1 < n ∧ e.2 < n) {k : Nat} (hk : k ≤ n) :
    Reached n (properEdges edges) k
      (steps (properEdges edges) k (start n (properEdges edges))) := by
  induction k with
  | zero => exact .start
  | succ k ih =>
    have hreached := ih (by omega)
    obtain ⟨hsound, hlength⟩ := hreached.sound hbound
    rw [steps_succ]
    exact hreached.round (by omega) (hsound.step?_eq hbound (by omega))

end Placement

open Placement

/-- Positions are sorted without a fault, whatever the edges between them. Before every round each
position waits on as many edges, none of them from itself, as lead to it from positions not yet
placed; the ready ones are those that are left and wait on none; and nothing before the next
unplaced one is left. The round then goes through, if there is one left to place. After as many
rounds as there are positions all are placed, each once. -/
theorem stableSort_goes_through (nodes : List Nat) (edges : List Edge)
    (hbound : ∀ e ∈ edges, e.1 < nodes.length ∧ e.2 < nodes.length) :
    (∀ k s, Reached nodes.length (properEdges edges) k s →
      s.Tracks nodes.length (waiting (properEdges edges) s.reversed) ∧ s.reversed.length = k ∧
        (k < nodes.length → step? (properEdges edges) s = some (step (properEdges edges) s))) ∧
    (∃ s, Reached nodes.length (properEdges edges) nodes.length s ∧
      (∀ p, p ∈ s.reversed ↔ p < nodes.length) ∧
        stableSort nodes.length edges = s.reversed.reverse) ∧
    ((stableSort nodes.length edges).filterMap fun p => nodes[p]?).Perm nodes := by
  refine ⟨?_, ?_, ?_⟩
  · intro k s hreached
    obtain ⟨hsound, hlength⟩ := hreached.sound hbound
    exact ⟨hsound.tracks, hlength, fun hk => hsound.step?_eq hbound (by omega)⟩
  · refine ⟨_, reached_steps hbound le_rfl, fun p => ?_, rfl⟩
    rw [← List.mem_reverse, ← stableSort, (stableSort_perm hbound).mem_iff, List.mem_range]
  · have hperm := (stableSort_perm hbound).filterMap fun p => nodes[p]?
    rwa [filterMap_range] at hperm

/-- A cycle with one edge twice, an edge of a position to itself, and a position after the cycle. -/
def knot : List Edge := [(0, 1), (1, 0), (1, 0), (2, 2), (1, 3)]

theorem stableSort_goes_through_knot :
    (∀ e ∈ knot, e.1 < 4 ∧ e.2 < 4) ∧ stableSort 4 knot = [2, 0, 1, 3] ∧
    (∀ k s, Reached 4 (properEdges knot) k s →
      s.Tracks 4 (waiting (properEdges knot) s.reversed) ∧ s.reversed.length = k ∧
        (k < 4 → step? (properEdges knot) s = some (step (properEdges knot) s))) ∧
    ((stableSort 4 knot).filterMap fun p => [6, 2, 9, 4][p]?).Perm [6, 2, 9, 4] := by
  have hbound : ∀ e ∈ knot, e.1 < 4 ∧ e.2 < 4 := by decide
  obtain ⟨hrounds, _, hperm⟩ := stableSort_goes_through [6, 2, 9, 4] knot hbound
  exact ⟨hbound, by decide, hrounds, hperm⟩

end Rollout.Batch
