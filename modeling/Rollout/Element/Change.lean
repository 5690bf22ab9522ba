import Rollout.Element.Entity

/-!
# Changes

A change adds, modifies or removes an element. Its data is the entity that a request is made
of: the one after the change, or the one that is removed.
-/

namespace Rollout

inductive Action where
  | add
  | modify
  | remove
deriving DecidableEq, Inhabited

namespace Action

def text : Action → String
  | .add => "add"
  | .modify => "modify"
  | .remove => "remove"

def all : List Action := [.add, .modify, .remove]

end Action

inductive Change where
  | add (after : Entity)
  | modify (before after : Entity)
  | remove (before : Entity)

namespace Change

def action : Change → Action
  | .add _ => .add
  | .modify _ _ => .modify
  | .remove _ => .remove

/-- The entity that a request is made of. -/
def data : Change → Entity
  | .add after => after
  | .modify _ after => after
  | .remove before => before

def modifyData (f : Entity → Entity) : Change → Change
  | .add after => .add (f after)
  | .modify before after => .modify before (f after)
  | .remove before => .remove (f before)

/-- The change with the snapshots of its data refreshed from entities. -/
def refreshed (change : Change) (entities : List Entity) : Change :=
  change.modifyData fun data => data.refreshed entities

def before? : Change → Option Entity
  | .add _ => none
  | .modify before _ => some before
  | .remove before => some before

def after? : Change → Option Entity
  | .add after => some after
  | .modify _ after => some after
  | .remove _ => none

def elemId (change : Change) : ElemId := change.data.elemId

def isRemoval (change : Change) : Bool := change.action = .remove

def modifyAfter (f : Entity → Entity) : Change → Change
  | .add after => .add (f after)
  | .modify before after => .modify before (f after)
  | .remove before => .remove before

def toJson (change : Change) : Json :=
  .object <|
    ("action", .string change.action.text) ::
    (change.before?.map fun e => ("before", e.toJson)).toList ++
    (change.after?.map fun e => ("after", e.toJson)).toList

/-- The change of an action between two entities, if it has those it needs. -/
def between? (action : Action) (before after : Option Entity) : Option Change :=
  match action, before, after with
  | .add, _, some after => some (.add after)
  | .modify, some before, some after => some (.modify before after)
  | .remove, some before, _ => some (.remove before)
  | _, _, _ => none

/-- Equality, the order of members aside. -/
def same : Change → Change → Bool
  | .add a, .add b => a.same b
  | .modify a a', .modify b b' => a.same b && a'.same b'
  | .remove a, .remove b => a.same b
  | _, _ => false

end Change

end Rollout
