import Rollout.Endpoint.Definition

/-!
# Deploy configurations

The endpoints of every type of entity, one for each action that can be requested.
-/

namespace Rollout

/-- The endpoints of one type, by action. -/
structure Endpoints where
  add : Option Endpoint
  modify : Option Endpoint
  remove : Option Endpoint
deriving DecidableEq

structure TypeConfig where
  endpoints : Endpoints
deriving DecidableEq

structure DeployConfig where
  types : Table TypeConfig
deriving DecidableEq

namespace Endpoints

/-- No action can be requested. -/
def unconfigured : Endpoints := ⟨none, none, none⟩

def forAction (endpoints : Endpoints) : Action → Option Endpoint
  | .add => endpoints.add
  | .modify => endpoints.modify
  | .remove => endpoints.remove

def toJson (endpoints : Endpoints) : Json :=
  .object <| Action.all.filterMap fun action =>
    (endpoints.forAction action).map fun endpoint => (action.text, endpoint.toJson)

end Endpoints

def TypeConfig.toJson (config : TypeConfig) : Json :=
  .object [("deployRequests", config.endpoints.toJson)]

namespace DeployConfig

def endpointsFor? (config : DeployConfig) (typeName : String) : Option Endpoints :=
  (config.types.get? typeName).map TypeConfig.endpoints

/-- The endpoints for a type, none if the type is not configured. -/
def endpointsFor (config : DeployConfig) (typeName : String) : Endpoints :=
  (config.endpointsFor? typeName).getD .unconfigured

def toJson (config : DeployConfig) : Json :=
  .object [("types", .object (config.types.mapValues TypeConfig.toJson).entries)]

end DeployConfig

end Rollout
