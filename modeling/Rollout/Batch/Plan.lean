import Rollout.Batch.Order
import Rollout.Request.Build

/-!
# Plans

What would be sent for a batch, without sending it.
-/

namespace Rollout.Batch

structure PlannedChange where
  elemId : ElemId
  action : Action
  request : Except BuildError Request

/-- The requests of a batch in the order in which they would be sent. -/
def plan (config : DeployConfig) (changes : List Change) : List PlannedChange :=
  (ordered changes).map fun change =>
    let built := change.request (config.endpointsFor change.data.typeName) LeftOut.nothing
    ⟨change.elemId, change.action, built.outcome⟩

def PlannedChange.toJson (planned : PlannedChange) : Json :=
  .object [("elemId", .string planned.elemId.fullName), ("action", .string planned.action.text),
    match planned.request with
    | .ok request => ("request", request.toJson)
    | .error e => ("error", .string e.message)]

end Rollout.Batch
