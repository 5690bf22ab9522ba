import Rollout.Http.Response
import Rollout.Request.Build

/-!
# Why a change is not deployed
-/

namespace Rollout

/-- Why a change is not deployed. -/
inductive DeployError where
  | build (error : BuildError)
  | transport (error : ClientError)
  /-- The service answered, but without success. -/
  | unsuccessful (method : HttpMethod) (url : String) (status : Nat) (data : Json)
  | interrupted

/-- What is at fault. -/
inductive ErrorKind where
  /-- The configuration lacks an endpoint, or the source of a URL parameter. -/
  | configuration
  /-- The request was sent and failed, or never reached the service. -/
  | transport
  /-- The entity lacks data that the endpoint needs, or has it malformed. -/
  | dataShape
  /-- The batch was interrupted before the change was sent. -/
  | interrupted
deriving DecidableEq

def ErrorKind.text : ErrorKind → String
  | .configuration => "configuration"
  | .transport => "transport"
  | .dataShape => "dataShape"
  | .interrupted => "interrupted"

namespace DeployError

def message : DeployError → String
  | .build error => error.message
  | .transport error => error.message
  | .unsuccessful method url status data =>
    method.text ++ " " ++ url ++ " returned status " ++ toString status ++ ": " ++ data.text
  | .interrupted => "interrupted before the change was sent"

def kind : DeployError → ErrorKind
  | .build error => if error.isConfiguration then .configuration else .dataShape
  | .transport _ => .transport
  | .unsuccessful _ _ _ _ => .transport
  | .interrupted => .interrupted

end DeployError

/-- An error of a batch, attributed to the element of its change. -/
structure ChangeError where
  elemId : ElemId
  message : String
  kind : ErrorKind
deriving DecidableEq

namespace ChangeError

def of (elemId : ElemId) (error : DeployError) : ChangeError :=
  ⟨elemId, error.message, error.kind⟩

/-- Every error of a change has the same severity. -/
def toJson (error : ChangeError) : Json :=
  .object [("elemId", .string error.elemId.fullName), ("message", .string error.message),
    ("severity", .string "error"), ("kind", .string error.kind.text)]

end ChangeError

end Rollout
