import Rollout.Http.Response
import Rollout.Request.Build

/-!
# Services

A service is what requests are sent to: a function of its own state and the request.
-/

namespace Rollout

structure Reply where
  outcome : Except ClientError Response
  /-- Whether an interruption is asked for during the call. -/
  interrupts : Bool

/-- A service that requests are sent to. -/
structure Service (σ : Type) where
  answer : σ → Request → Reply × σ

end Rollout
