import Rollout.Proofs.Batch.Deployer
import Rollout.Proofs.Batch.Merging

/-!
# Deployments are atomic

A change whose deployment fails is left as it was, at whichever point it fails. One that succeeds
takes up nothing but the value of an added entity. The service is called once if the request can
be made, and not at all if it cannot.
-/

namespace Rollout

/-- After a response a change is as it was, but for the value of an added entity, and for that
only if the response has members to be merged in. -/
def Change.TakesUp (change : Change) (response : Json) (after : Change) : Prop :=
  match change with
  | .add entity =>
    ∃ value, after = .add { entity with value } ∧
      (response.isObject = false → value = entity.value)
  | .modify _ _ => after = change
  | .remove _ => after = change

namespace Batch

variable {σ : Type}

/-- The change is left as it was, and told of with an error of transport. -/
def Outcome.FailsInTransport (outcome : Outcome) (change : Change) : Prop :=
  outcome.change = change ∧ ∃ e, outcome.result = .error e ∧ e.kind = .transport

theorem isSuccessStatus_iff {status : Nat} :
    isSuccessStatus status = true ↔ 200 ≤ status ∧ status ≤ 299 := by
  have hbound : status < 300 ↔ status ≤ 299 := by omega
  rw [isSuccessStatus, Bool.and_eq_true, decide_eq_true_iff, decide_eq_true_iff, hbound]

theorem settled_takesUp (change : Change) (response : Json) :
    change.TakesUp response (settled change response) := by
  cases change with
  | add entity =>
    refine ⟨(entity.merged response).value, ?_, fun hresponse => ?_⟩
    · exact congrArg Change.add (entity.merged_eq response)
    · rw [entity.merged_of_not_isObject hresponse]
  | modify before entity => rfl
  | remove entity => rfl

/-- The reply to the one call decides what becomes of a change. -/
theorem concluded_cases (change : Change) (request : Request)
    (reply : Except ClientError Response) :
    match reply with
    | .error _ => (concluded change request reply).FailsInTransport change
    | .ok response =>
      if 200 ≤ response.status ∧ response.status ≤ 299 then
        (concluded change request reply).result = .ok response.data ∧
          change.TakesUp response.data (concluded change request reply).change
      else (concluded change request reply).FailsInTransport change := by
  cases reply with
  | error e => exact ⟨rfl, .transport e, rfl, rfl⟩
  | ok response =>
    simp only [concluded, isSuccessStatus_iff]
    split
    · exact ⟨rfl, settled_takesUp change response.data⟩
    · exact ⟨rfl, .unsuccessful request.method request.url response.status response.data, rfl, rfl⟩

/-- A deployment is all or nothing. If the request cannot be made, that error is returned, no
call is made and the change is as it was. Otherwise the request is sent once; unless there is a
response of a status from 200 to 299, the error is one of transport and the change is as it
was. If there is, its data is returned as it is, and the change takes up what it may. -/
theorem deployChange_atomic (service : Service σ) (endpoints : Endpoints) (leftOut : LeftOut)
    (change : Change) (run : Run σ) :
    let deployed := deployChange service endpoints leftOut change run
    match (change.request endpoints leftOut).outcome with
    | .error e =>
      deployed.1.change = change ∧ deployed.1.result = .error (.build e) ∧
        deployed.2.calls = run.calls ∧ deployed.2.service = run.service
    | .ok request =>
      let answered := service.answer run.service request
      deployed.2.calls = run.calls ++ [request] ∧ deployed.2.service = answered.2 ∧
        match answered.1.outcome with
        | .error _ => deployed.1.FailsInTransport change
        | .ok response =>
          if 200 ≤ response.status ∧ response.status ≤ 299 then
            deployed.1.result = .ok response.data ∧
              change.TakesUp response.data deployed.1.change
          else deployed.1.FailsInTransport change := by
  intro deployed
  cases h : (change.request endpoints leftOut).outcome with
  | error e =>
    have hdeployed := deployChange_of_error service run h
    change deployed = _ at hdeployed
    rw [hdeployed]
    exact ⟨rfl, rfl, rfl, rfl⟩
  | ok request =>
    have hdeployed := deployChange_of_ok service run h
    change deployed = _ at hdeployed
    rw [hdeployed]
    exact ⟨rfl, rfl, concluded_cases change request _⟩

end Batch

end Rollout
