import Rollout.Batch.Plan
import Rollout.Proofs.Batch.Calls

/-!
# Plans and deployments

If the snapshots of a batch stand, a deployment in order sends what the plan lists, whatever the
service answers, and refuses what the plan refuses. What becomes of a change may alter the
service, but no request that is still to be made.
-/

namespace Rollout.Batch

variable {σ : Type}

/-- The element of a change that has no request, and why there is none. -/
def PlannedChange.refusal? (planned : PlannedChange) : Option (ElemId × String) :=
  match planned.request with
  | .ok _ => none
  | .error e => some (planned.elemId, e.message)

def Outcome.refusal? (outcome : Outcome) : Option (ElemId × String) :=
  match outcome.result with
  | .error (.build e) => some (outcome.change.elemId, e.message)
  | _ => none

/-- What is planned for a change. -/
def planned (config : DeployConfig) (change : Change) : PlannedChange :=
  ⟨change.elemId, change.action,
    (change.request (config.endpointsFor change.data.typeName) LeftOut.nothing).outcome⟩

theorem plan_eq_map (config : DeployConfig) (changes : List Change) :
    plan config changes = (ordered changes).map (planned config) := rfl

theorem refusal?_standardDeployer (service : Service σ) (config : DeployConfig)
    (change : Change) (run : Run σ) :
    (standardDeployer service config LeftOut.nothing change run).1.refusal? =
      (planned config change).refusal? := by
  rw [standardDeployer, PlannedChange.refusal?, planned]
  cases h : (change.request (config.endpointsFor change.data.typeName)
      LeftOut.nothing).outcome with
  | error e => rw [deployChange_of_error service run h, Outcome.refusal?]
  | ok request =>
    rw [deployChange_of_ok service run h]
    cases (service.answer run.service request).1.outcome with
    | error e => rfl
    | ok response =>
      dsimp only [concluded]
      split <;> rfl

private theorem kind_build (e : BuildError) :
    (DeployError.build e).kind = .configuration ∨ (DeployError.build e).kind = .dataShape := by
  rw [DeployError.kind]
  split <;> simp

/-- The errors of configuration and of data are those of the changes without a request. -/
theorem refusals_ofOutcomes (outcomes : List Outcome) :
    ((Result.ofOutcomes outcomes).errors.filter fun e =>
        e.kind = .configuration ∨ e.kind = .dataShape).map (fun e => (e.elemId, e.message)) =
      outcomes.filterMap Outcome.refusal? := by
  induction outcomes with
  | nil => rfl
  | cons outcome outcomes ih =>
    obtain ⟨change, result⟩ := outcome
    simp only [Result.ofOutcomes, List.filterMap_cons] at ih ⊢
    cases result with
    | ok answer => exact ih
    | error e =>
      cases e with
      | build e =>
        have hkind := kind_build e
        simp only [List.filter_cons, ChangeError.of, hkind, decide_true, if_true, List.map_cons]
        exact congrArg _ ih
      | transport e => exact ih
      | unsuccessful method url status data => exact ih
      | interrupted => exact ih

/-- If the snapshots of a batch stand, its deployment makes exactly the calls that the plan
lists, and its errors of configuration and of data are those that the plan lists. -/
theorem deployment_follows_plan (service : Service σ) (config : DeployConfig)
    {changes : List Change} (h : SnapshotsStand changes) (run : Run σ) :
    let after := deployChanges (standardDeployer service config LeftOut.nothing) changes run
    after.2.calls =
      run.calls ++ (plan config changes).filterMap (fun entry => entry.request.toOption) ∧
    (after.1.errors.filter fun e => e.kind = .configuration ∨ e.kind = .dataShape).map
        (fun e => (e.elemId, e.message)) =
      (plan config changes).filterMap PlannedChange.refusal? := by
  intro after
  let deploy := standardDeployer service config LeftOut.nothing
  let turns := Mode.turns (.inOrder false) deploy changes run
  have hchanges : turns.map Turn.change = ordered changes :=
    h.changes_of_turns (standardDeployer_settling service config LeftOut.nothing) false run
  constructor
  · have hcalls : after.2.calls = run.calls ++ turns.flatMap fun turn =>
        (requestOf? config LeftOut.nothing turn.change).toList :=
      calls_deployChanges config LeftOut.nothing service changes run
    rw [hcalls, plan_eq_map, ← hchanges, List.map_map, List.filterMap_map,
      List.filterMap_eq_flatMap_toList]
    rfl
  · have hresult : after.1 = .ofOutcomes (turns.map Turn.outcome) :=
      congrArg Prod.fst (Mode.deploy_eq (.inOrder false) deploy changes run)
    have hrefusal : ∀ turn ∈ turns,
        turn.outcome.refusal? = (planned config turn.change).refusal? := by
      intro turn hturn
      rw [Mode.outcome_of_mem_turns _ _ _ _ hturn]
      exact refusal?_standardDeployer service config turn.change turn.run
    rw [hresult, refusals_ofOutcomes, plan_eq_map, ← hchanges, List.map_map,
      List.filterMap_map, List.filterMap_map]
    exact List.filterMap_congr hrefusal

/-- Elements are added under their first ancestor and modified in place, but not removed. -/
def addingUnder : DeployConfig where
  types := Table.empty.insert "T" ⟨⟨
    some
      { url := ⟨[.literal "/under/", .param "parent"]⟩
        method := .post
        urlParams := Table.empty.insert "parent" ⟨.ancestor 0, ["id"]⟩
        omitBody := false
        ignored := []
        query := none
        wrapper := none },
    some
      { url := ⟨[.literal "/elements"]⟩
        method := .put
        urlParams := .empty
        omitBody := false
        ignored := []
        query := none
        wrapper := none },
    none⟩⟩

/-- A child, a removal, and the modification that gives the parent of the child the value of its
snapshot. -/
def standingBatch : List Change :=
  [.add { namedEntity "child" [] with
      parents := [⟨⟨"adapter", "T", "parent"⟩, [("id", .string "7")]⟩] },
    .remove (namedEntity "old" []),
    .modify (namedEntity "parent" [])
      { namedEntity "parent" [] with value := [("id", .string "7")] }]

private theorem snapshotsStand_standingBatch : SnapshotsStand standingBatch := by
  constructor <;>
    simp [standingBatch, namedEntity, Change.data, Change.elemId, Change.action]

theorem deployment_follows_plan_standingBatch :
    let after := deployChanges (standardDeployer accepting addingUnder LeftOut.nothing)
      standingBatch (.start ())
    let listed := plan addingUnder standingBatch
    SnapshotsStand standingBatch ∧
    after.2.calls.map Request.url = ["/elements", "/under/7"] ∧ after.1.errors.length = 1 ∧
    after.2.calls = listed.filterMap (fun entry => entry.request.toOption) ∧
    (after.1.errors.filter fun e => e.kind = .configuration ∨ e.kind = .dataShape).map
        (fun e => (e.elemId, e.message)) = listed.filterMap PlannedChange.refusal? := by
  intro after listed
  obtain ⟨hcalls, herrors⟩ := deployment_follows_plan accepting addingUnder
    snapshotsStand_standingBatch (.start ())
  exact ⟨snapshotsStand_standingBatch, by decide, by decide, hcalls, herrors⟩

end Rollout.Batch
