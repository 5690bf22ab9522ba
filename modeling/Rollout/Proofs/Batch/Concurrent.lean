import Rollout.Proofs.Batch.Snapshots
import Rollout.Proofs.Order.Independent

/-!
# Independent batches at once

An independent batch that is deployed at once has the same calls and the same result as one that
is deployed in order until an interruption. Both hand over the changes as they were given; what
the one tells of failures in between, and the other last, is not seen by the deployer.
-/

namespace Rollout.Batch

variable {σ : Type}

/-- What a deployer does does not depend on what was told of the run. -/
def Unaware (deploy : Deployer σ) : Prop :=
  ∀ (change : Change) {run run' : Run σ}, run.Alike run' →
    (deploy change run).1 = (deploy change run').1 ∧
      (deploy change run).2.Alike (deploy change run').2

theorem standardDeployer_unaware (service : Service σ) (config : DeployConfig)
    (leftOut : LeftOut) : Unaware (standardDeployer service config leftOut) := by
  intro change run run' hrun
  rw [standardDeployer, standardDeployer]
  cases h : (change.request (config.endpointsFor change.data.typeName) leftOut).outcome with
  | error e =>
    rw [deployChange_of_error service run h, deployChange_of_error service run' h]
    exact ⟨rfl, hrun.service, hrun.interrupted, hrun.calls⟩
  | ok request =>
    rw [deployChange_of_ok service run h, deployChange_of_ok service run' h]
    refine ⟨by rw [hrun.service], ?_, ?_, ?_⟩
    · simp only [Run.send, Run.warned, hrun.service]
    · simp only [Run.send, Run.warned, hrun.service, hrun.interrupted]
    · simp only [Run.send, Run.warned, hrun.calls]

namespace Unaware

variable {deploy : Deployer σ}

theorem amid (h : Unaware deploy) (meanwhile : Change → σ → σ × Bool) :
    Unaware (amid (fun change run => meanwhile change run.service) deploy) := by
  intro change run run' hrun
  obtain ⟨houtcome, hafter⟩ := h change hrun
  refine ⟨houtcome, ?_, ?_, hafter.calls⟩
  · simp only [Batch.amid, hafter.service]
  · simp only [Batch.amid, hafter.service, hafter.interrupted]

theorem attempt (h : Unaware deploy) (heeds : Bool) : Unaware (attempt heeds deploy) := by
  intro change run run' hrun
  rw [Batch.attempt, Batch.attempt, hrun.interrupted]
  split
  · exact ⟨rfl, hrun⟩
  · exact h change hrun

variable (mode mode' : Mode) (changes : List Change) (run : Run σ)

/-- The changes that are handed over decide what comes of a batch that heeds interruptions: the
turns are those of the same changes one after the other. -/
theorem deployWindow_turns (h : Unaware deploy) (hheeds : mode.heeds = true) :
    let turns := mode.turns deploy changes run
    let after := deployWindow deploy (turns.map Turn.change) run
    after.1 = turns.map Turn.outcome ∧ after.2.Alike (mode.queue deploy changes run).run := by
  apply mode.queue_keeps deploy changes run fun queue =>
    let after := deployWindow deploy (queue.turns.map Turn.change) run
    after.1 = queue.turns.map Turn.outcome ∧ after.2.Alike queue.run
  · exact ⟨rfl, .refl run⟩
  · intro queue hqueue
    obtain ⟨houtcomes, hrun⟩ := hqueue
    cases hpending : queue.pending with
    | nil =>
      rw [Queue.step_nil hpending]
      exact ⟨houtcomes, hrun⟩
    | cons change pending =>
      -- the runs differ in the failures told of, which the next attempt does not see
      obtain ⟨houtcome, hafter⟩ := h.attempt true change hrun
      rw [Queue.step_cons hpending, hheeds]
      simp only [List.map_append, List.map_cons, List.map_nil, deployWindow_append, houtcomes,
        deployWindow, houtcome, true_and]
      exact hafter.trans (mode.note_alike _ _).symm

/-- Two ways that hand over the same changes give the same. -/
theorem deploy_eq_of_changes (h : Unaware deploy) (hheeds : mode.heeds = true)
    (hheeds' : mode'.heeds = true)
    (hchanges : (mode.turns deploy changes run).map Turn.change =
      (mode'.turns deploy changes run).map Turn.change) :
    (mode.deploy deploy changes run).1 = (mode'.deploy deploy changes run).1 ∧
      (mode.deploy deploy changes run).2.Alike (mode'.deploy deploy changes run).2 := by
  obtain ⟨houtcomes, hrun⟩ := h.deployWindow_turns mode changes run hheeds
  obtain ⟨houtcomes', hrun'⟩ := h.deployWindow_turns mode' changes run hheeds'
  rw [hchanges] at houtcomes hrun
  constructor
  · rw [mode.deploy_eq, mode'.deploy_eq, ← houtcomes, ← houtcomes']
  · have hqueues := hrun.symm.trans hrun'
    exact (mode.deploy_alike deploy changes run).trans
      (hqueues.trans (mode'.deploy_alike deploy changes run).symm)

end Unaware

theorem Independent.snapshotsStand {changes : List Change} (h : Independent changes) :
    SnapshotsStand changes where
  not_added change hchange snapshot hsnapshot other hother _ hid :=
    h.not_isChildOf change hchange other hother ⟨snapshot, hsnapshot, hid.symm⟩
  modified change hchange snapshot hsnapshot other hother _ hid :=
    absurd ⟨snapshot, hsnapshot, hid.symm⟩ (h.not_isChildOf change hchange other hother)

/-- An independent batch that is deployed at once, however many changes at a time, has the same
result and the same calls as one that is deployed in order until an interruption, and leaves the
service in the same state. This holds whatever the service answers and whenever an interruption
is asked for. -/
theorem deployConcurrently_eq_deployUntil (service : Service σ) (config : DeployConfig)
    (leftOut : LeftOut) (meanwhile : Change → σ → σ × Bool) (limit : Nat)
    {changes : List Change} (h : Independent changes) (run : Run σ) :
    let deploy := amid (fun change run => meanwhile change run.service)
      (standardDeployer service config leftOut)
    let together := deployConcurrently deploy limit changes run
    let inTurn := deployUntil deploy changes run
    together.1 = inTurn.1 ∧ together.2.Alike inTurn.2 := by
  intro deploy together inTurn
  have hunaware : Unaware deploy :=
    (standardDeployer_unaware service config leftOut).amid meanwhile
  have hsettling : Settling deploy := (standardDeployer_settling service config leftOut).amid _
  have htogether : (Mode.turns (.atOnce limit) deploy changes run).map Turn.change = changes :=
    (changes_of_turns_atOnce deploy limit changes run).trans (filterMap_range changes)
  have hinTurn : (Mode.turns (.inOrder true) deploy changes run).map Turn.change = changes :=
    (h.snapshotsStand.changes_of_turns hsettling true run).trans h.ordered_eq
  exact hunaware.deploy_eq_of_changes (.atOnce limit) (.inOrder true) changes run rfl rfl
    (htogether.trans hinTurn.symm)

/-- Additions, a modification for which there is no endpoint, and a removal. -/
def independentBatch : List Change :=
  [.modify (namedEntity "old" []) (namedEntity "old" []), .add (namedEntity "a" ["other"]),
    .add (namedEntity "b" ["other"]), .remove (namedEntity "c" [])]

private theorem independent_independentBatch : Independent independentBatch := by
  constructor
  · simp [independentBatch, Change.IsChildOf, namedEntity, Change.data, Change.elemId]
  · simp [independentBatch, Change.isRemoval, Change.action]

theorem deployConcurrently_eq_deployUntil_independentBatch :
    let deploy := amid (fun change run => (fun _ state => (state, false)) change run.service)
      (standardDeployer stopping addingOnly LeftOut.nothing)
    let together := deployConcurrently deploy 0 independentBatch (.start ())
    let inTurn := deployUntil deploy independentBatch (.start ())
    Independent independentBatch ∧ together.1 = inTurn.1 ∧ together.2.Alike inTurn.2 ∧
      inTurn.1.applied.length = 1 ∧ inTurn.1.errors.length = 3 ∧ inTurn.2.calls.length = 1 := by
  intro deploy together inTurn
  obtain ⟨hresult, halike⟩ := deployConcurrently_eq_deployUntil stopping addingOnly
    LeftOut.nothing (fun _ state => (state, false)) 0 independent_independentBatch (.start ())
  exact ⟨independent_independentBatch, hresult, halike, by decide, by decide, by decide⟩

end Rollout.Batch
