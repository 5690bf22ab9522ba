import Rollout.Proofs.Batch.Overlap
import Rollout.Proofs.Batch.Snapshots

/-!
# What is sent for a batch

The service is called for the changes that are applied and for those that fail in transport,
and for no others: once for each, in the order in which the batch is processed, with the request
of the change as it stands at its turn. That holds of calls that overlap as of calls that complete
at once.
-/

namespace Rollout.Batch

variable {σ : Type}

/-- The service was called for a change: the change is applied, or it failed in transport. -/
def Outcome.called (outcome : Outcome) : Bool :=
  match outcome.result with
  | .ok _ => true
  | .error e => e.kind = .transport

/-- The requests that are sent in a turn. -/
def Turn.sent (config : DeployConfig) (leftOut : LeftOut) (turn : Turn σ) : List Request :=
  if turn.outcome.called then (requestOf? config leftOut turn.change).toList else []

/-- The outcomes of a deployer tell what it sends: the request of a change once, or nothing. -/
structure Telling (config : DeployConfig) (leftOut : LeftOut) (deploy : Deployer σ) : Prop where
  calls : ∀ change run, (deploy change run).2.calls =
    run.calls ++ Turn.sent config leftOut ⟨change, run, (deploy change run).1⟩
  requested : ∀ change run, (deploy change run).1.called = true →
    (requestOf? config leftOut change).isSome = true

variable {config : DeployConfig} {leftOut : LeftOut}

theorem called_concluded (change : Change) (request : Request)
    (reply : Except ClientError Response) : (concluded change request reply).called = true := by
  cases reply with
  | error e => rfl
  | ok response =>
    rw [concluded]
    split <;> rfl

theorem standardDeployer_not_interrupted (service : Service σ) (config : DeployConfig)
    (leftOut : LeftOut) (change : Change) (run : Run σ) {e : DeployError}
    (he : (standardDeployer service config leftOut change run).1.result = .error e) :
    e.kind ≠ .interrupted := by
  rw [standardDeployer] at he
  cases h : (change.request (config.endpointsFor change.data.typeName) leftOut).outcome with
  | error cause =>
    rw [deployChange_of_error service run h] at he
    obtain rfl := Except.error.inj he
    rw [DeployError.kind]
    split <;> simp
  | ok request =>
    rw [deployChange_of_ok service run h] at he
    dsimp only at he
    have hcalled := called_concluded change request (service.answer run.service request).1.outcome
    rw [Outcome.called, he] at hcalled
    simp [of_decide_eq_true hcalled]

theorem called_standardDeployer (service : Service σ) (config : DeployConfig)
    (leftOut : LeftOut) (change : Change) (run : Run σ) :
    (standardDeployer service config leftOut change run).1.called =
      (requestOf? config leftOut change).isSome := by
  rw [standardDeployer, requestOf?]
  cases h : (change.request (config.endpointsFor change.data.typeName) leftOut).outcome with
  | error e =>
    rw [deployChange_of_error service run h]
    cases hconfiguration : e.isConfiguration <;>
      simp [Outcome.called, DeployError.kind, hconfiguration, Except.toOption]
  | ok request =>
    rw [deployChange_of_ok service run h]
    exact called_concluded change request _

/-- In a turn with the outcome that the standard deployer gives, the request of the change is
sent, if it has one. -/
theorem sent_of_outcome {service : Service σ} {turn : Turn σ}
    (h : turn.outcome = (standardDeployer service config leftOut turn.change turn.run).1) :
    turn.sent config leftOut = (requestOf? config leftOut turn.change).toList := by
  rw [Turn.sent, h, called_standardDeployer]
  cases requestOf? config leftOut turn.change <;> rfl

theorem standardDeployer_telling (service : Service σ) (config : DeployConfig)
    (leftOut : LeftOut) : Telling config leftOut (standardDeployer service config leftOut) where
  calls change run := by
    rw [calls_standardDeployer, sent_of_outcome rfl]
  requested change run h := by rwa [called_standardDeployer] at h

namespace Telling

variable {deploy : Deployer σ}

theorem amid (h : Telling config leftOut deploy) (meanwhile : Change → Run σ → σ × Bool) :
    Telling config leftOut (amid meanwhile deploy) where
  calls change run := h.calls change run
  requested change run := h.requested change run

/-- Nothing is sent for a change that is interrupted. -/
theorem attempt (h : Telling config leftOut deploy) (heeds : Bool) :
    Telling config leftOut (attempt heeds deploy) where
  calls change run := by
    rw [Batch.attempt]
    split
    · simp [Turn.sent, Outcome.called, DeployError.kind]
    · exact h.calls change run
  requested change run hcalled := by
    rw [Batch.attempt] at hcalled
    split at hcalled
    · simp [Outcome.called, DeployError.kind] at hcalled
    · exact h.requested change run hcalled

variable (mode : Mode) (changes : List Change) (run : Run σ)

/-- The calls for a batch are those of its turns. -/
theorem calls_deploy (h : Telling config leftOut deploy) :
    (mode.deploy deploy changes run).2.calls =
      run.calls ++ (mode.turns deploy changes run).flatMap (Turn.sent config leftOut) := by
  have hqueue : (mode.queue deploy changes run).run.calls =
      run.calls ++ (mode.turns deploy changes run).flatMap (Turn.sent config leftOut) := by
    apply mode.queue_keeps deploy changes run fun queue =>
      queue.run.calls = run.calls ++ queue.turns.flatMap (Turn.sent config leftOut)
    · simp [Queue.start]
    · intro queue hqueue
      cases hpending : queue.pending with
      | nil => rwa [Queue.step_nil hpending]
      | cons change pending =>
        rw [Queue.step_cons hpending, List.flatMap_append, ← List.append_assoc, ← hqueue,
          List.flatMap_singleton, (mode.note_alike _ _).calls]
        exact (h.attempt mode.heeds).calls change queue.run
  rw [(mode.deploy_alike deploy changes run).calls, hqueue]

theorem requested_of_mem_turns (h : Telling config leftOut deploy) {turn : Turn σ}
    (hturn : turn ∈ mode.turns deploy changes run) (hcalled : turn.outcome.called = true) :
    (requestOf? config leftOut turn.change).isSome = true := by
  rw [mode.outcome_of_mem_turns deploy changes run hturn] at hcalled
  exact (h.attempt mode.heeds).requested turn.change turn.run hcalled

end Telling

/-! ## Calls and results -/

theorem length_filter_called (outcomes : List Outcome) :
    (outcomes.filter Outcome.called).length = (Result.ofOutcomes outcomes).applied.length +
      ((Result.ofOutcomes outcomes).errors.filter fun e => e.kind = .transport).length := by
  induction outcomes with
  | nil => rfl
  | cons outcome outcomes ih =>
    obtain ⟨change, result⟩ := outcome
    cases result with
    | ok answer =>
      simp only [Result.ofOutcomes, Outcome.called, List.filter_cons, List.filterMap_cons,
        if_true, List.length_cons] at ih ⊢
      omega
    | error e =>
      simp only [Result.ofOutcomes, Outcome.called, List.filter_cons, List.filterMap_cons,
        ChangeError.of] at ih ⊢
      by_cases hkind : e.kind = .transport
      · simp only [hkind, decide_true, if_true, List.length_cons]
        omega
      · simpa only [hkind, decide_false, Bool.false_eq_true, if_false] using ih

/-- Where each turn with a call has a request, the calls are the requests of those turns. -/
theorem map_ok_flatMap_sent {turns : List (Turn σ)}
    (h : ∀ turn ∈ turns, turn.outcome.called = true →
      (requestOf? config leftOut turn.change).isSome = true) :
    (turns.flatMap (Turn.sent config leftOut)).map Except.ok =
      (turns.filter fun turn => turn.outcome.called).map fun turn => (turn.change.request
        (config.endpointsFor turn.change.elemId.typeName) leftOut).outcome := by
  induction turns with
  | nil => rfl
  | cons turn turns ih =>
    have hrest := ih fun later hlater => h later (List.mem_cons_of_mem _ hlater)
    have hturn := h turn List.mem_cons_self
    rw [List.flatMap_cons, List.map_append, hrest, Turn.sent]
    cases hcalled : turn.outcome.called with
    | false => simp [hcalled]
    | true =>
      obtain ⟨request, hrequest⟩ := Option.isSome_iff_exists.mp (hturn hcalled)
      have hok : (turn.change.request (config.endpointsFor turn.change.elemId.typeName)
          leftOut).outcome = .ok request := requestOf?_eq_some.mp hrequest
      simp [hcalled, hrequest, hok]

/-- In a batch that is deployed in order each change with a request is called for once, with
the snapshots of its turn. -/
theorem calls_deployChanges (config : DeployConfig) (leftOut : LeftOut) (service : Service σ)
    (changes : List Change) (run : Run σ) :
    (deployChanges (standardDeployer service config leftOut) changes run).2.calls =
      run.calls ++ (Mode.turns (.inOrder false) (standardDeployer service config leftOut)
        changes run).flatMap fun turn => (requestOf? config leftOut turn.change).toList := by
  have hcalls := (standardDeployer_telling service config leftOut).calls_deploy (.inOrder false)
    changes run
  rw [Mode.deploy] at hcalls
  rw [hcalls]
  refine congrArg (run.calls ++ ·) (List.flatMap_congr fun turn hturn => ?_)
  exact sent_of_outcome (Mode.outcome_of_mem_turns _ _ _ _ hturn)

/-- The result of a batch tells what was sent for it. There is one call for each change that is
applied and for each error of transport, in the order of the turns, and none for any other error.
It is made with the request of the change as it stands at its turn, to the endpoints of its type. -/
structure CallsMatch (config : DeployConfig) (leftOut : LeftOut) (turns : List (Turn σ))
    (before : List Request) (after : Result × Run σ) : Prop where
  result : after.1 = .ofOutcomes (turns.map Turn.outcome)
  calls : ∃ calls, after.2.calls = before ++ calls ∧
    calls.map Except.ok = ((turns.filter fun turn => turn.outcome.called).map fun turn =>
      (turn.change.request (config.endpointsFor turn.change.elemId.typeName) leftOut).outcome) ∧
    calls.length = after.1.applied.length +
      (after.1.errors.filter fun e => e.kind = .transport).length

theorem callsMatch_of_sent {turns : List (Turn σ)} {before : List Request}
    {after : Result × Run σ} (hresult : after.1 = .ofOutcomes (turns.map Turn.outcome))
    (hcalls : after.2.calls = before ++ turns.flatMap (Turn.sent config leftOut))
    (hrequested : ∀ turn ∈ turns, turn.outcome.called = true →
      (requestOf? config leftOut turn.change).isSome = true) :
    CallsMatch config leftOut turns before after := by
  have hrequests := map_ok_flatMap_sent hrequested
  refine ⟨hresult, turns.flatMap (Turn.sent config leftOut), hcalls, hrequests, ?_⟩
  have hlength := congrArg List.length hrequests
  rw [List.length_map, List.length_map] at hlength
  rw [hlength, hresult, ← length_filter_called, List.filter_map, List.length_map]
  rfl

/-! ## Calls in flight -/

section Flight

namespace Begun

variable {begun : Begun σ} {outcome : Outcome}

/-- What was sent as a change began is what its outcome tells. -/
theorem Course.sent_eq (h : begun.Course config leftOut outcome) :
    (if outcome.called then (requestOf? config leftOut begun.change).toList else []) =
      begun.sent config leftOut := by
  cases h with
  | interrupted hasked => simp [sent, hasked, Outcome.called, DeployError.kind]
  | refused _ hrefuses =>
    have hnone : requestOf? config leftOut begun.change = none := by
      rw [requestOf?, hrefuses]
      rfl
    simp [sent, hnone]
  | replied hgoes => simp [sent, hgoes, called_concluded]

theorem Course.requested (h : begun.Course config leftOut outcome)
    (hcalled : outcome.called = true) :
    (requestOf? config leftOut begun.change).isSome = true := by
  cases h with
  | interrupted => simp [Outcome.called, DeployError.kind] at hcalled
  | @refused _ e hrefuses =>
    cases hconfiguration : e.isConfiguration <;>
      simp [Outcome.called, DeployError.kind, hconfiguration] at hcalled
  | replied _ hbuilt _ =>
    rw [requestOf?, hbuilt]
    rfl

theorem Takes.sent_eq {turn : Turn σ} (h : begun.Takes config leftOut turn) :
    turn.sent config leftOut = begun.sent config leftOut := by
  rw [Turn.sent, h.change]
  exact h.course.sent_eq

end Begun

variable {limit : Nat} {changes : List Change} {run : Run σ} {flight : Flight σ}

theorem Flight.Reached.callsMatch (h : Flight.Reached config leftOut limit changes run flight)
    (hover : flight.IsOver config leftOut) :
    CallsMatch config leftOut (flight.turns config leftOut) run.calls
      (flight.result config leftOut) := by
  rw [result_eq]
  apply callsMatch_of_sent rfl
  · rw [(Run.Alike.foldl_record _ _).calls, h.calls_eq, List.flatMap_def, List.flatMap_def,
      hover.map_turns fun _ _ htakes => htakes.sent_eq]
  · intro turn hturn
    obtain ⟨begun, _, htakes⟩ := exists_begun_of_mem_turns hturn
    rw [htakes.change]
    exact htakes.course.requested

end Flight

/-- The result of a batch tells exactly what was sent for it, whichever way it is deployed. If its
calls overlap, they are made as the changes begin, in the order given, and no more than allowed wait
for their replies; and they are the same, with the same result, as if each had completed at once
with the reply that it got. -/
theorem calls_match_result (config : DeployConfig) (leftOut : LeftOut) (changes : List Change)
    (run : Run σ) :
    (∀ (service : Service σ) (meanwhile : Change → Run σ → σ × Bool) (mode : Mode),
      let deploy := amid meanwhile (standardDeployer service config leftOut)
      let turns := mode.turns deploy changes run
      turns.map Turn.change = (mode.inputs changes).mapIdx (fun n input =>
        input.withSnapshots (mode.known? (turns.take n))) ∧
      CallsMatch config leftOut turns run.calls (mode.deploy deploy changes run)) ∧
    ∀ (limit : Nat) (flight : Flight σ),
      Flight.Reached config leftOut limit changes run flight →
      flight.run.calls = run.calls ++ flight.begun.flatMap (Begun.sent config leftOut) ∧
      (flight.begun.filter fun begun => !begun.isOver config leftOut).length ≤ max limit 1 ∧
      (flight.IsOver config leftOut →
        let atOnce := deployConcurrently (amid toNext (standardDeployer replaying config leftOut))
          limit changes (flight.replayed run)
        (flight.turns config leftOut).map Turn.change = changes ∧
        CallsMatch config leftOut (flight.turns config leftOut) run.calls
          (flight.result config leftOut) ∧
        (flight.result config leftOut).1 = atOnce.1 ∧
        (flight.result config leftOut).2.calls = atOnce.2.calls) := by
  refine ⟨fun service meanwhile mode => ?_, fun limit flight h => ?_⟩
  · intro deploy turns
    have htelling : Telling config leftOut deploy :=
      (standardDeployer_telling service config leftOut).amid meanwhile
    have hsettling : Settling deploy :=
      (standardDeployer_settling service config leftOut).amid meanwhile
    have hresult : (mode.deploy deploy changes run).1 = .ofOutcomes (turns.map Turn.outcome) :=
      congrArg Prod.fst (mode.deploy_eq deploy changes run)
    exact ⟨mode.changes_of_turns hsettling changes run,
      callsMatch_of_sent hresult (htelling.calls_deploy mode changes run) fun turn hturn =>
        htelling.requested_of_mem_turns mode changes run hturn⟩
  · exact ⟨h.calls_eq, h.length_waiting_le, fun hover =>
      ⟨h.changes_of_turns hover, h.callsMatch hover, h.eq_deployConcurrently hover⟩⟩

/-- Two calls that overlap are told of: one that succeeded and one that failed before it. -/
theorem calls_match_result_crossed :
    Flight.Reached addingOnly LeftOut.nothing 2 crossedBatch (.start ()) crossed ∧
    crossed.IsOver addingOnly LeftOut.nothing ∧
    CallsMatch addingOnly LeftOut.nothing (crossed.turns addingOnly LeftOut.nothing) []
      (crossed.result addingOnly LeftOut.nothing) ∧
    (crossed.result addingOnly LeftOut.nothing).2.calls.length = 2 ∧
    (crossed.result addingOnly LeftOut.nothing).1.applied.length = 1 ∧
    (crossed.result addingOnly LeftOut.nothing).1.errors.length = 2 := by
  obtain ⟨_, _, hmatch⟩ := (calls_match_result addingOnly LeftOut.nothing crossedBatch
    (.start ())).2 2 crossed reached_crossed
  obtain ⟨_, hcalls, _⟩ := hmatch isOver_crossed
  exact ⟨reached_crossed, isOver_crossed, hcalls, by decide, by decide, by decide⟩

end Rollout.Batch
