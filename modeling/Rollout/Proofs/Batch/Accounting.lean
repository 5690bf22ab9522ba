import Mathlib.Data.List.Forall2
import Rollout.Proofs.Batch.Overlap
import Rollout.Proofs.Batch.Snapshots

/-!
# What becomes of the changes of a batch

Whatever way a batch is deployed, each of its changes has one turn, in the order in which the
batch is processed, and is told of once: as an applied change or as an error of its element. That
holds of calls that overlap as of calls that complete at once.
-/

namespace Rollout

/-- The second entity is the first one with other values in its snapshots. -/
def Entity.EqButSnapshots (entity other : Entity) : Prop :=
  other.elemId = entity.elemId ∧ other.objectType = entity.objectType ∧
    other.value = entity.value ∧
    other.parents.map Parent.elemId = entity.parents.map Parent.elemId

/-- An applied change is the one that was given, but for the values of its snapshots and, if it
is an addition, the value after it. -/
def Change.AppliedAs (input applied : Change) : Prop :=
  match input, applied with
  | .add after, .add after' => Entity.EqButSnapshots { after with value := after'.value } after'
  | .modify before after, .modify before' after' =>
    before' = before ∧ after.EqButSnapshots after'
  | .remove before, .remove before' => before.EqButSnapshots before'
  | _, _ => False

namespace Batch

variable {σ : Type}

/-- The given changes whose turns succeeded. -/
def succeeded (inputs : List Change) (turns : List (Turn σ)) : List Change :=
  (inputs.zip turns).filterMap fun (input, turn) =>
    match turn.outcome.result with
    | .ok _ => some input
    | .error _ => none

/-- The errors of the given changes whose turns failed. -/
def failures (inputs : List Change) (turns : List (Turn σ)) : List ChangeError :=
  (inputs.zip turns).filterMap fun (input, turn) =>
    match turn.outcome.result with
    | .ok _ => none
    | .error e => some (.of input.elemId e)

/-- The turn of a given change: it is handed over with some snapshots, and settled. -/
def Turn.Serves (turn : Turn σ) (input : Change) : Prop :=
  (∃ latest, turn.change = input.withSnapshots latest) ∧ turn.outcome.Settles turn.change

theorem turns_serve_inputs {deploy : Deployer σ} (hdeploy : Settling deploy) (mode : Mode)
    (changes : List Change) (run : Run σ) :
    List.Forall₂ (fun input turn => Turn.Serves turn input) (mode.inputs changes)
      (mode.turns deploy changes run) := by
  rw [List.forall₂_iff_get]
  refine ⟨by rw [mode.length_inputs, mode.length_turns], fun n hinput hturn => ⟨?_, ?_⟩⟩
  · have hchanges := congrArg (·[n]?) (mode.changes_of_turns hdeploy changes run)
    simp only [List.getElem?_map, List.getElem?_mapIdx, List.getElem?_eq_getElem hturn,
      List.getElem?_eq_getElem hinput] at hchanges
    exact ⟨_, Option.some.inj hchanges⟩
  · rw [mode.outcome_of_mem_turns deploy changes run (List.get_mem _ _)]
    exact hdeploy.attempt _ _ _

/-! ## Applied changes and errors -/

private theorem appliedAs_of_serves {input : Change} {turn : Turn σ} (h : turn.Serves input)
    {answer : Json} (hanswer : turn.outcome.result = .ok answer) :
    input.AppliedAs turn.outcome.change := by
  obtain ⟨⟨latest, hchange⟩, hsettles⟩ := h
  rw [Outcome.Settles, hanswer, hchange] at hsettles
  rw [hsettles]
  cases input with
  | add after =>
    simp only [Change.withSnapshots, Change.modifyData, settled, Change.AppliedAs]
    rw [Entity.merged_eq]
    simp [Entity.EqButSnapshots, Function.comp_def]
  | modify before after =>
    simp [Change.withSnapshots, Change.modifyData, settled, Change.AppliedAs,
      Entity.EqButSnapshots, Function.comp_def]
  | remove before =>
    simp [Change.withSnapshots, Change.modifyData, settled, Change.AppliedAs,
      Entity.EqButSnapshots, Function.comp_def]

private theorem elemId_of_serves {input : Change} {turn : Turn σ} (h : turn.Serves input)
    {e : DeployError} (he : turn.outcome.result = .error e) :
    turn.outcome.change.elemId = input.elemId := by
  obtain ⟨⟨latest, hchange⟩, hsettles⟩ := h
  rw [Outcome.Settles, he] at hsettles
  rw [hsettles, hchange, Change.elemId_withSnapshots]

private theorem applied_of_serves {inputs : List Change} {turns : List (Turn σ)}
    (h : List.Forall₂ (fun input turn => Turn.Serves turn input) inputs turns) :
    List.Forall₂ Change.AppliedAs (succeeded inputs turns)
      (Result.ofOutcomes (turns.map Turn.outcome)).applied := by
  induction h with
  | nil => exact .nil
  | @cons input turn inputs turns hserves _ ih =>
    simp only [succeeded, Result.ofOutcomes, List.zip_cons_cons, List.map_cons,
      List.filterMap_cons] at ih ⊢
    cases hresult : turn.outcome.result with
    | ok answer => exact .cons (appliedAs_of_serves hserves hresult) ih
    | error e => exact ih

private theorem errors_of_serves {inputs : List Change} {turns : List (Turn σ)}
    (h : List.Forall₂ (fun input turn => Turn.Serves turn input) inputs turns) :
    (Result.ofOutcomes (turns.map Turn.outcome)).errors = failures inputs turns := by
  induction h with
  | nil => rfl
  | @cons input turn inputs turns hserves _ ih =>
    simp only [failures, Result.ofOutcomes, List.zip_cons_cons, List.map_cons,
      List.filterMap_cons] at ih ⊢
    cases hresult : turn.outcome.result with
    | ok answer => exact ih
    | error e =>
      dsimp only
      rw [ih, elemId_of_serves hserves hresult]

theorem length_ofOutcomes (outcomes : List Outcome) :
    (Result.ofOutcomes outcomes).applied.length + (Result.ofOutcomes outcomes).errors.length =
      outcomes.length := by
  induction outcomes with
  | nil => rfl
  | cons outcome outcomes ih =>
    simp only [Result.ofOutcomes, List.filterMap_cons, List.length_cons] at ih ⊢
    cases outcome.result with
    | ok answer =>
      simp only [List.length_cons]
      omega
    | error e =>
      simp only [List.length_cons]
      omega

/-- What is told of some given changes after their turns. Each has its turn; those whose turns
succeeded are the applied changes, as they were given but for their snapshots and the values of
what they add, and the others are the errors, each of its own element. -/
structure Accounted (inputs : List Change) (turns : List (Turn σ)) (result : Result) : Prop where
  handed : List.Forall₂ (fun input turn => ∃ latest, Turn.change turn = input.withSnapshots latest)
    inputs turns
  applied : List.Forall₂ Change.AppliedAs (succeeded inputs turns) result.applied
  errors : result.errors = failures inputs turns
  all : result.applied.length + result.errors.length = inputs.length

theorem accounted_of_serves {inputs : List Change} {turns : List (Turn σ)}
    (h : List.Forall₂ (fun input turn => Turn.Serves turn input) inputs turns) :
    Accounted inputs turns (.ofOutcomes (turns.map Turn.outcome)) where
  handed := h.imp fun _ _ hserves => hserves.1
  applied := applied_of_serves h
  errors := errors_of_serves h
  all := by rw [length_ofOutcomes, List.length_map, h.length_eq]

/-! ## Calls in flight -/

section Flight

variable {config : DeployConfig} {leftOut : LeftOut} {limit : Nat} {changes : List Change}
  {run : Run σ} {flight : Flight σ}

/-- When a batch with calls in flight is over, each change was handed over as it was given. -/
theorem Flight.Reached.turns_serve (h : Flight.Reached config leftOut limit changes run flight)
    (hover : flight.IsOver config leftOut) :
    List.Forall₂ (fun input turn => Turn.Serves turn input) changes
      (flight.turns config leftOut) := by
  rw [← h.changes_of_begun hover, List.forall₂_map_left_iff]
  refine hover.turns_taken.imp fun begun turn htakes => ⟨⟨fun _ => none, ?_⟩, ?_⟩
  · rw [htakes.change, Change.withSnapshots_none]
  · rw [htakes.change]
    exact htakes.course.settles

end Flight

/-- No change of a batch is lost, told of twice or taken for another one: each has its turn, in
the order in which the batch is processed, and is accounted for by its outcome. This holds
whichever way the batch is deployed. If its calls overlap, each change has begun or is left at any
moment, the batch does not get stuck, and all is accounted for when it is over, however many calls
may overlap and in whatever order they were replied to; and a batch in which the calls complete at
once is one of these. -/
theorem every_change_accounted_for (config : DeployConfig) (leftOut : LeftOut)
    (changes : List Change) (run : Run σ) :
    (∀ (service : Service σ) (meanwhile : Change → Run σ → σ × Bool) (mode : Mode),
      let deploy := amid meanwhile (standardDeployer service config leftOut)
      let turns := mode.turns deploy changes run
      (mode.order changes).Perm (List.range changes.length) ∧
      (mode.inputs changes).length = changes.length ∧
      (turns.map Turn.outcome = turns.map fun turn =>
        (attempt mode.heeds deploy turn.change turn.run).1) ∧
      Accounted (mode.inputs changes) turns (mode.deploy deploy changes run).1) ∧
    (∀ (limit : Nat) (flight : Flight σ),
      Flight.Reached config leftOut limit changes run flight →
      flight.begun.map Begun.change ++ flight.pending = changes ∧
      ((∀ begun ∈ flight.begun, begun.isOver config leftOut = true) → flight.pending ≠ [] →
        ∃ next, Flight.Step config leftOut limit flight next ∧
          next.begun.length = flight.begun.length + 1) ∧
      (flight.IsOver config leftOut →
        List.Forall₂ (Begun.Takes config leftOut) flight.begun (flight.turns config leftOut) ∧
        (flight.turns config leftOut).map Turn.change = changes ∧
        Accounted changes (flight.turns config leftOut) (flight.result config leftOut).1)) ∧
    ∀ (service : Service σ) (meanwhile : Change → Run σ → σ × Bool) (limit : Nat),
      let deploy := amid meanwhile (standardDeployer service config leftOut)
      ∃ flight, Flight.Reached config leftOut limit changes run flight ∧
        flight.IsOver config leftOut ∧
        flight.turns config leftOut = Mode.turns (.atOnce limit) deploy changes run ∧
        flight.result config leftOut = deployConcurrently deploy limit changes run := by
  refine ⟨fun service meanwhile mode => ?_, fun limit flight h => ?_, fun service meanwhile limit =>
    exists_flight_eq_deployConcurrently service meanwhile limit changes run⟩
  · intro deploy turns
    have hdeploy : Settling deploy :=
      (standardDeployer_settling service config leftOut).amid meanwhile
    refine ⟨mode.order_perm changes, mode.length_inputs changes, ?_, ?_⟩
    · exact List.map_congr_left fun turn hturn =>
        mode.outcome_of_mem_turns deploy changes run hturn
    · rw [mode.deploy_eq]
      exact accounted_of_serves (turns_serve_inputs hdeploy mode changes run)
  · refine ⟨h.changes_eq, Flight.exists_step, fun hover =>
      ⟨hover.turns_taken, h.changes_of_turns hover, ?_⟩⟩
    rw [Flight.result_eq]
    exact accounted_of_serves (h.turns_serve hover)

/-- Of two additions whose calls overlap, the second one fails first; a modification after them
has no endpoint. -/
theorem every_change_accounted_for_crossed :
    Flight.Reached addingOnly LeftOut.nothing 2 crossedBatch (.start ()) crossed ∧
    crossed.IsOver addingOnly LeftOut.nothing ∧
    Accounted crossedBatch (crossed.turns addingOnly LeftOut.nothing)
      (crossed.result addingOnly LeftOut.nothing).1 ∧
    (crossed.result addingOnly LeftOut.nothing).1.applied.map Change.elemId =
      [⟨"adapter", "T", "a"⟩] ∧
    (crossed.result addingOnly LeftOut.nothing).1.errors.map ChangeError.kind =
      [.transport, .configuration] := by
  obtain ⟨_, _, haccounted⟩ := (every_change_accounted_for addingOnly LeftOut.nothing crossedBatch
    (.start ())).2.1 2 crossed reached_crossed
  exact ⟨reached_crossed, isOver_crossed, (haccounted isOver_crossed).2.2, by decide, by decide⟩

end Batch

end Rollout
