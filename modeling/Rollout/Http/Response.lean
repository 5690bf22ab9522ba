import Rollout.Http.Method
import Rollout.Json.Text

/-!
# Responses and failures of a client
-/

namespace Rollout

structure Response where
  status : Nat
  data : Json

/-- Statuses from 200 to 299 mean success. -/
def isSuccessStatus (status : Nat) : Bool := 200 ≤ status && status < 300

/-- Why a client gives no response. -/
inductive ClientError where
  /-- There was no response, or none that could be read. -/
  | request (url cause : String)
  /-- The service answered with a status that means failure. -/
  | status (url : String) (status : Nat) (data : Json)

namespace ClientError

def message : ClientError → String
  | .request url cause => "request to " ++ url ++ " failed: " ++ cause
  | .status url code data =>
    "request to " ++ url ++ " failed with status " ++ toString code ++ ": " ++ data.text

def status? : ClientError → Option Nat
  | .request _ _ => none
  | .status _ code _ => some code

end ClientError

end Rollout
