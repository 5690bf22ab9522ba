import Rollout.Element.Change
import Rollout.Path.Resolve

/-!
# Permitted values

The part of an entity that may be sent for an action: the fields whose rules allow it,
without what an endpoint ignores and what the caller leaves out.
-/

namespace Rollout

/-- Whether a field may be sent for an action. A removal may send every field. -/
def FieldRules.permits (rules : FieldRules) : Action → Bool
  | .add => rules.creatable ≠ some false
  | .modify => rules.updatable ≠ some false
  | .remove => true

/-- Fields that the caller leaves out, by name and element. -/
abbrev LeftOut := String → ElemId → Bool

def LeftOut.nothing : LeftOut := fun _ _ => false

namespace Entity

/-- The fields whose rules allow the action. -/
def permittedValue (entity : Entity) (action : Action) : Fields :=
  entity.value.filter fun field => (entity.rules? field.1).all fun rules => rules.permits action

end Entity

namespace Fields

/-- Deletes what some paths lead to, one path after the other. -/
def deleteAll (paths : List FieldPath) (fields : Fields) : Fields :=
  paths.foldl (fun left path => (path.delete left).2) fields

/-- Deletes what some paths lead to, then the fields that the caller leaves out. -/
def withoutIgnored (fields : Fields) (elemId : ElemId) (ignored : List FieldPath)
    (leftOut : LeftOut) : Fields :=
  (fields.deleteAll ignored).filter fun field => !leftOut field.1 elemId

end Fields

end Rollout
