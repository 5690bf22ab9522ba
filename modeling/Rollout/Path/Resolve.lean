import Rollout.Path.FieldPath
import Rollout.Element.Entity

/-!
# Following and cutting paths

A step leads from an object to a member, or from an array to an item by its index. A path is
resolved by its steps, one after the other; what it resolves to can be deleted from the
value it starts at.
-/

namespace Rollout

namespace Json

/-- Where a step leads. -/
def child? (value : Json) (step : String) : Option Json :=
  match value with
  | .object members => Fields.get? members step
  | .array items => (Text.index? step).bind fun i => items[i]?
  | _ => none

/-- Replaces what a step leads to. -/
def setChild (value : Json) (step : String) (child : Json) : Json :=
  match value with
  | .object members => .object (Fields.put step child members)
  | .array items =>
    match Text.index? step with
    | some i => .array (items.set i child)
    | none => .array items
  | other => other

/-- Drops what a step leads to from its object or array. -/
def eraseChild (value : Json) (step : String) : Json :=
  match value with
  | .object members => .object (Fields.erase step members)
  | .array items =>
    match Text.index? step with
    | some i => .array (items.eraseIdx i)
    | none => .array items
  | other => other

/-- Where some steps lead, one after the other. -/
def at? (value : Json) : List String → Option Json
  | [] => some value
  | step :: steps => (value.child? step).bind fun child => child.at? steps

/-- What some steps, at least one, lead to, and the value without it. -/
def delete? (value : Json) : List String → Option (Json × Json)
  | [] => none
  | [step] => (value.child? step).map fun child => (child, value.eraseChild step)
  | step :: steps => do
    let child ← value.child? step
    let (deleted, left) ← child.delete? steps
    return (deleted, value.setChild step left)

end Json

namespace FieldPath

/-- The object at which a path starts in an entity. -/
def start? (path : FieldPath) (entity : Entity) : Option Fields :=
  match path.root with
  | .value => some entity.value
  | .ancestor index => entity.parents[index]?.map Parent.value

/-- What a path leads to in an entity. A path without steps leads nowhere. -/
def resolve? (path : FieldPath) (entity : Entity) : Option Json :=
  match path.segments with
  | [] => none
  | segments => (path.start? entity).bind fun start => (Json.object start).at? segments

/-- Deletes what a path leads to in the value of an entity: what was deleted, if anything,
and the value that is left. Nothing is deleted from ancestors. -/
def delete (path : FieldPath) (value : Fields) : Option Json × Fields :=
  match path.root with
  | .ancestor _ => (none, value)
  | .value =>
    match (Json.object value).delete? path.segments with
    | some (deleted, .object left) => (some deleted, left)
    | _ => (none, value)

end FieldPath

end Rollout
