import Rollout.Element.Change

/-!
# Order of a batch

Additions and modifications come first, each after the ancestors that are added or modified
with it; removals follow, each before the ancestors that are removed with it. Otherwise the
order of the batch is kept.

Positions are placed one at a time: the earliest that waits on no other, or, if all that are
left wait on one another, the earliest that is left.
-/

namespace Rollout.Batch

/-- A pair of positions: the first one is to be placed before the second one. -/
abbrev Edge := Nat × Nat

/-- How far the positions have been placed. -/
structure Placement where
  /-- For each position the edges into it from positions not yet placed. -/
  waitingOn : List Nat
  /-- The positions that wait on none and are not yet placed, ascending. -/
  ready : List Nat
  placed : List Bool
  /-- Every position before this one is placed. -/
  nextUnplaced : Nat
  /-- The positions placed, the last one first. -/
  reversed : List Nat

namespace Placement

/-- Inserts a position into ascending ones, unless it is there. -/
def insertAscending (position : Nat) : List Nat → List Nat
  | [] => [position]
  | other :: rest =>
    if position < other then position :: other :: rest
    else if position = other then other :: rest
    else other :: insertAscending position rest

/-- An edge of a position to itself counts for nothing. -/
def properEdges (edges : List Edge) : List Edge := edges.filter fun e => e.1 ≠ e.2

/-- The positions that are to come after one, as often as there are edges to them. -/
def successors (edges : List Edge) (position : Nat) : List Nat :=
  (edges.filter fun e => e.1 = position).map Prod.snd

def start (n : Nat) (edges : List Edge) : Placement :=
  let waitingOn := (List.range n).map fun p => (edges.filter fun e => e.2 = p).length
  { waitingOn
    ready := (List.range n).filter fun p => waitingOn[p]? = some 0
    placed := List.replicate n false
    nextUnplaced := 0
    reversed := [] }

/-- The first position from `next` on that is not placed. -/
def firstUnplaced (placed : List Bool) (next : Nat) : Nat :=
  next + ((placed.drop next).takeWhile id).length

/-- A position has one edge less to wait on, and may be ready now. -/
def release (s : Placement) (position : Nat) : Placement :=
  let waitingOn := s.waitingOn.modify position (· - 1)
  if waitingOn[position]? = some 0 ∧ s.placed[position]? = some false then
    { s with waitingOn, ready := insertAscending position s.ready }
  else { s with waitingOn }

/-- Places a position and releases those after it. -/
def place (edges : List Edge) (s : Placement) (position : Nat) : Placement :=
  (successors edges position).foldl release
    { s with placed := s.placed.set position true, reversed := position :: s.reversed }

def step (edges : List Edge) (s : Placement) : Placement :=
  match s.ready with
  | position :: ready => place edges { s with ready } position
  | [] =>
    let position := firstUnplaced s.placed s.nextUnplaced
    place edges { s with nextUnplaced := position } position

def steps (edges : List Edge) : Nat → Placement → Placement
  | 0, s => s
  | n + 1, s => steps edges n (step edges s)

end Placement

/-- The positions below `n` in an order that keeps to the edges as far as they allow. -/
def stableSort (n : Nat) (edges : List Edge) : List Nat :=
  let proper := Placement.properEdges edges
  (Placement.steps proper n (Placement.start n proper)).reversed.reverse

/-- Where each of some changes names another one, or itself, as an ancestor: the position of
the ancestor and its own. -/
def parentEdges (group : List Change) : List Edge :=
  group.zipIdx.flatMap fun (change, child) =>
    change.data.parents.flatMap fun parent =>
      (group.zipIdx.filter fun (other, _) => other.elemId = parent.elemId).map
        fun (_, position) => (position, child)

/-- The positions of a batch that satisfy a test, ascending. -/
def positions (test : Change → Bool) (changes : List Change) : List Nat :=
  (changes.zipIdx.filter fun (change, _) => test change).map Prod.snd

/-- The order in which a batch is processed, as positions in the batch. -/
def dependencyOrder (changes : List Change) : List Nat :=
  let upserts := positions (fun c => !c.isRemoval) changes
  let removals := positions Change.isRemoval changes
  let edgesOf (nodes : List Nat) := parentEdges (nodes.filterMap fun i => changes[i]?)
  let arrange (nodes : List Nat) (edges : List Edge) :=
    (stableSort nodes.length edges).filterMap fun p => nodes[p]?
  arrange upserts (edgesOf upserts) ++
    arrange removals ((edgesOf removals).map Prod.swap)

/-- The batch in the order in which it is processed. -/
def ordered (changes : List Change) : List Change :=
  (dependencyOrder changes).filterMap fun i => changes[i]?

end Rollout.Batch
