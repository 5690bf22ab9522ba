import Rollout.Element.Change

/-!
# Merging responses

What the service answers to an addition is merged into the value of the new entity: objects
member by member, anything else as a whole. A `null` in an object of the answer stands for
nothing; inside an array it stays.
-/

namespace Rollout

namespace Json

mutual

/-- Drops the members that are `null`, at every depth that is reached through objects. -/
def withoutNulls : Json → Json
  | .object members => .object (membersWithoutNulls members)
  | other => other

def membersWithoutNulls : Fields → Fields
  | [] => []
  | (name, value) :: rest =>
    if value.isNull then membersWithoutNulls rest
    else (name, value.withoutNulls) :: membersWithoutNulls rest

end

mutual

/-- Merges a patch into a value: a member that is `null` deletes, an object is merged, and
anything else replaces. Members that stay keep their places. -/
def merge (value : Json) : Json → Json
  | .object patch =>
    match value with
    | .object members => .object (mergeMembers members patch)
    | _ => .object (mergeMembers [] patch)
  | other => other

def mergeMembers (members : Fields) : Fields → Fields
  | [] => members
  | (name, patch) :: rest =>
    if patch.isNull then mergeMembers (Fields.erase name members) rest
    else
      mergeMembers
        (Fields.put name (merge ((Fields.get? members name).getD .null) patch) members) rest

end

end Json

/-- The entity with the answer to its addition merged in. An answer that is no object leaves
it alone. -/
def Entity.merged (entity : Entity) (answer : Json) : Entity :=
  if answer.isObject then
    match (Json.object entity.value).merge answer.withoutNulls with
    | .object value => { entity with value }
    | _ => entity
  else entity

end Rollout
