import Rollout.Proofs.Batch.Deployer
import Rollout.Proofs.Batch.Queue

/-!
# Snapshots at the turn of a change

When its turn comes in a batch that is deployed in order, a change is the one that was given
with each snapshot replaced by the value that the ancestor was last deployed with in the run,
and with the snapshots of the other ancestors as they were.
-/

namespace Rollout

/-- The change with the values that some function knows in place of its snapshots. -/
def Change.withSnapshots (change : Change) (latest : ElemId → Option Fields) : Change :=
  change.modifyData fun data =>
    { data with
      parents := data.parents.map fun parent =>
        { parent with value := (latest parent.elemId).getD parent.value } }

namespace Change

variable (change : Change) (latest : ElemId → Option Fields)

theorem modifyData_congr {f g : Entity → Entity} (h : f change.data = g change.data) :
    change.modifyData f = change.modifyData g := by
  cases change <;> simpa [modifyData, data] using h

@[simp] theorem elemId_withSnapshots :
    (change.withSnapshots latest).elemId = change.elemId := by
  cases change <;> rfl

@[simp] theorem action_withSnapshots :
    (change.withSnapshots latest).action = change.action := by
  cases change <;> rfl

@[simp] theorem value_withSnapshots :
    (change.withSnapshots latest).data.value = change.data.value := by
  cases change <;> rfl

@[simp] theorem withSnapshots_none : change.withSnapshots (fun _ => none) = change := by
  cases change <;> simp [withSnapshots, modifyData]

theorem withSnapshots_congr {latest latest' : ElemId → Option Fields}
    (h : ∀ snapshot ∈ change.data.parents, latest snapshot.elemId = latest' snapshot.elemId) :
    change.withSnapshots latest = change.withSnapshots latest' := by
  apply modifyData_congr
  have hparents := List.map_congr_left fun parent hparent =>
    congrArg (fun known : Option Fields => Parent.mk parent.elemId (known.getD parent.value))
      (h parent hparent)
  rw [hparents]

theorem withSnapshots_eq_self (h : ∀ snapshot ∈ change.data.parents,
    (latest snapshot.elemId).getD snapshot.value = snapshot.value) :
    change.withSnapshots latest = change := by
  have hparents : change.data.parents.map (fun parent =>
      { parent with value := (latest parent.elemId).getD parent.value }) =
        change.data.parents := by
    refine (List.map_congr_left fun parent hparent => ?_).trans (List.map_id _)
    rw [h parent hparent]
    rfl
  have hdata : change.withSnapshots latest = change.modifyData id := by
    apply modifyData_congr
    rw [hparents]
    rfl
  rw [hdata]
  cases change <;> rfl

end Change

namespace Batch

variable {σ : Type}

/-- The value with which a turn left an element at the service: that of its successful
addition, the response merged in, or of its successful modification. -/
def Turn.left? (turn : Turn σ) (id : ElemId) : Option Fields :=
  match turn.change, turn.outcome.result with
  | .add after, .ok answer =>
    if after.elemId = id then some (after.merged answer).value else none
  | .modify _ after, .ok _ => if after.elemId = id then some after.value else none
  | _, _ => none

/-- The value with which an element was last left at the service. -/
def latestValue? (turns : List (Turn σ)) (id : ElemId) : Option Fields :=
  turns.reverse.findSome? fun turn => turn.left? id

/-- The changes handed over so far and those left hold the latest values. -/
structure Queue.Fresh (inputs : List Change) (queue : Queue σ) : Prop where
  handed : ∀ (n : Nat) (turn : Turn σ), queue.turns[n]? = some turn →
    ∃ input : Change, inputs[n]? = some input ∧
      turn.change = input.withSnapshots (latestValue? (queue.turns.take n))
  pending : queue.pending = (inputs.drop queue.turns.length).map fun input =>
    input.withSnapshots (latestValue? queue.turns)

@[simp] theorem latestValue?_nil : latestValue? ([] : List (Turn σ)) = fun _ => none := rfl

theorem latestValue?_concat (turns : List (Turn σ)) (turn : Turn σ) (id : ElemId) :
    latestValue? (turns ++ [turn]) id = (turn.left? id).or (latestValue? turns id) := by
  rw [latestValue?, List.reverse_append, List.reverse_singleton, List.singleton_append,
    List.findSome?_cons]
  cases turn.left? id <;> rfl

theorem Turn.left?_eq_some {turn : Turn σ} {id : ElemId} {value : Fields}
    (h : turn.left? id = some value) :
    turn.change.elemId = id ∧ (turn.change.action = .add ∨
      turn.change.action = .modify ∧ turn.change.data.value = value) := by
  obtain ⟨change, run, outcome, result⟩ := turn
  cases change <;> cases result <;>
    simp_all [Turn.left?, Change.action, Change.elemId, Change.data]

theorem exists_left_of_latest {turns : List (Turn σ)} {id : ElemId} {value : Fields}
    (h : latestValue? turns id = some value) : ∃ turn ∈ turns, turn.left? id = some value := by
  obtain ⟨turn, hturn, hleft⟩ := List.exists_of_findSome?_eq_some h
  exact ⟨turn, List.mem_reverse.mp hturn, hleft⟩

/-- A value that a turn left is the latest one, if no turn left another value. -/
theorem latest_of_left {turns : List (Turn σ)} {turn : Turn σ} {id : ElemId}
    {value : Fields} (hturn : turn ∈ turns) (hleft : turn.left? id = some value)
    (hunique : ∀ other ∈ turns, ∀ value', other.left? id = some value' → value' = value) :
    latestValue? turns id = some value := by
  cases hlatest : latestValue? turns id with
  | none =>
    have hnone := List.findSome?_eq_none_iff.mp hlatest turn (List.mem_reverse.mpr hturn)
    rw [hleft] at hnone
    cases hnone
  | some value' =>
    obtain ⟨other, hother, hleft'⟩ := exists_left_of_latest hlatest
    rw [hunique other hother value' hleft']

theorem Turn.left?_eq {turn : Turn σ} (h : turn.outcome.Settles turn.change) (id : ElemId) :
    turn.left? id = turn.outcome.deployed?.bind fun entity =>
      if entity.elemId = id then some entity.value else none := by
  obtain ⟨change, run, outcome, result⟩ := turn
  simp only [Outcome.Settles] at h
  cases result with
  | error e => cases change <;> rfl
  | ok answer =>
    cases change <;> simp [Turn.left?, Outcome.deployed?, h, settled, Change.after?]

private theorem withSnapshots_refreshed (change : Change) (latest : ElemId → Option Fields)
    (deployed? : Option Entity) :
    (change.withSnapshots latest).refreshed deployed?.toList = change.withSnapshots fun id =>
      (deployed?.bind fun entity => if entity.elemId = id then some entity.value else none).or
        (latest id) := by
  cases deployed? with
  | none => simp
  | some entity =>
    have hparent (parent : Parent) :
        Parent.refresh { parent with value := (latest parent.elemId).getD parent.value } entity =
          { parent with value :=
            ((if entity.elemId = parent.elemId then some entity.value else none).or
              (latest parent.elemId)).getD parent.value } := by
      by_cases h : entity.elemId = parent.elemId
      · simp [Parent.refresh, h]
      · simp [Parent.refresh, h, Ne.symm h]
    cases change <;>
      simp [Change.refreshed, Change.withSnapshots, Change.modifyData, Entity.refreshed, hparent]

theorem Queue.Fresh.start (inputs : List Change) (run : Run σ) :
    (Queue.start inputs run).Fresh inputs where
  handed := by simp [Queue.start]
  pending := by simp [Queue.start]

/-- A turn keeps the snapshots of the changes that are left up to date. -/
theorem Queue.Fresh.step {deploy : Deployer σ} (hdeploy : Settling deploy) (heeds : Bool)
    {inputs : List Change} {queue : Queue σ} (h : queue.Fresh inputs) :
    (queue.step (.inOrder heeds) deploy).Fresh inputs := by
  cases hpending : queue.pending with
  | nil => rwa [Queue.step_nil hpending]
  | cons change pending =>
    let outcome := (attempt heeds deploy change queue.run).1
    let turn : Turn σ := ⟨change, queue.run, outcome⟩
    have hinputs := h.pending
    rw [hpending] at hinputs
    obtain ⟨input, rest, hdrop, hinput, hrest⟩ := List.map_eq_cons_iff.mp hinputs.symm
    have hlatest : (fun id => (outcome.deployed?.bind fun entity =>
        if entity.elemId = id then some entity.value else none).or
          (latestValue? queue.turns id)) = latestValue? (queue.turns ++ [turn]) := by
      funext id
      rw [latestValue?_concat, Turn.left?_eq (hdeploy.attempt heeds change queue.run)]
    rw [Queue.step_cons hpending]
    constructor
    · intro n later hlater
      rcases getElem?_concat_eq_some hlater with ⟨hn, hlater⟩ | ⟨rfl, rfl⟩
      · rw [List.take_append_of_le_length hn.le]
        exact h.handed n later hlater
      · refine ⟨input, ?_, ?_⟩
        · rw [← List.head?_drop, hdrop]
          rfl
        · simp [hinput]
    · have htail : inputs.drop (queue.turns.length + 1) = rest := by
        rw [← List.tail_drop, hdrop]
        rfl
      simp only [List.length_append, List.length_singleton, htail, Mode.refresh, ← hrest,
        List.map_map]
      refine List.map_congr_left fun input _ => ?_
      exact (withSnapshots_refreshed input _ _).trans (congrArg _ hlatest)

theorem Queue.Fresh.steps {deploy : Deployer σ} (hdeploy : Settling deploy) (heeds : Bool)
    {inputs : List Change} {queue : Queue σ} (h : queue.Fresh inputs) (n : Nat) :
    (queue.steps (.inOrder heeds) deploy n).Fresh inputs :=
  Queue.steps_keep (Queue.Fresh inputs) (fun _ hqueue => hqueue.step hdeploy heeds) n h

/-- The changes of a batch as they stand when their turns come: as they were given, with the
latest value of every ancestor that was deployed before. -/
theorem changes_of_turns {deploy : Deployer σ} (hdeploy : Settling deploy) (heeds : Bool)
    (changes : List Change) (run : Run σ) :
    (Mode.turns (.inOrder heeds) deploy changes run).map Turn.change =
      (ordered changes).mapIdx fun n input => input.withSnapshots
        (latestValue? ((Mode.turns (.inOrder heeds) deploy changes run).take n)) := by
  have hfresh := (Queue.Fresh.start (Mode.inputs (.inOrder heeds) changes) run).steps hdeploy
    heeds changes.length
  refine List.ext_getElem? fun n => ?_
  rw [List.getElem?_map, List.getElem?_mapIdx]
  cases hturn : (Mode.turns (.inOrder heeds) deploy changes run)[n]? with
  | none =>
    have hn := List.getElem?_eq_none_iff.mp hturn
    rw [Mode.length_turns, ← (ordered_perm changes).length_eq] at hn
    simp [List.getElem?_eq_none hn]
  | some turn =>
    obtain ⟨input, hinput, hchange⟩ := hfresh.handed n turn hturn
    have hinput' : (ordered changes)[n]? = some input := hinput
    simp only [hinput', Option.map_some, hchange]
    rfl

/-- The values that replace the snapshots of a change at its turn: those that were left before
or, if the batch is deployed at once, none. -/
def Mode.known? (mode : Mode) (turns : List (Turn σ)) (id : ElemId) : Option Fields :=
  match mode with
  | .inOrder _ => latestValue? turns id
  | .atOnce _ => none

theorem Mode.changes_of_turns {deploy : Deployer σ} (hdeploy : Settling deploy) (mode : Mode)
    (changes : List Change) (run : Run σ) :
    (mode.turns deploy changes run).map Turn.change =
      (mode.inputs changes).mapIdx fun n input =>
        input.withSnapshots (mode.known? ((mode.turns deploy changes run).take n)) := by
  cases mode with
  | inOrder heeds => exact Batch.changes_of_turns hdeploy heeds changes run
  | atOnce limit =>
    have hnone (turns : List (Turn σ)) : Mode.known? (.atOnce limit) turns = fun _ => none := rfl
    rw [changes_of_turns_atOnce]
    exact List.ext_getElem? fun n => by simp [hnone]

theorem Mode.input_of_turn {deploy : Deployer σ} (hdeploy : Settling deploy) (mode : Mode)
    (changes : List Change) (run : Run σ) {n : Nat} {turn : Turn σ}
    (hturn : (mode.turns deploy changes run)[n]? = some turn) :
    ∃ input, (mode.inputs changes)[n]? = some input ∧ turn.change =
      input.withSnapshots (mode.known? ((mode.turns deploy changes run).take n)) := by
  have hchanges := congrArg (·[n]?) (mode.changes_of_turns hdeploy changes run)
  simp only [List.getElem?_map, List.getElem?_mapIdx, hturn, Option.map_some] at hchanges
  obtain ⟨input, hinput, hchange⟩ := Option.map_eq_some_iff.mp hchanges.symm
  exact ⟨input, hinput, hchange.symm⟩

theorem Mode.input_of_mem_turns {deploy : Deployer σ} (hdeploy : Settling deploy) (mode : Mode)
    (changes : List Change) (run : Run σ) {turn : Turn σ}
    (hturn : turn ∈ mode.turns deploy changes run) :
    ∃ input ∈ changes, ∃ latest, turn.change = input.withSnapshots latest := by
  obtain ⟨n, hn⟩ := List.mem_iff_getElem?.mp hturn
  obtain ⟨input, hinput, hchange⟩ := mode.input_of_turn hdeploy changes run hn
  exact ⟨input, (mode.inputs_perm changes).mem_iff.mp (List.mem_of_getElem? hinput), _, hchange⟩

/-- In a batch that is deployed in order, each change is handed over as it was given but for
its snapshots: each has the value with which its element was last left at the service in the
same run, the response merged in, or stays as it was if there is none. -/
theorem handed_changes_hold_latest_values (service : Service σ) (config : DeployConfig)
    (leftOut : LeftOut) (meanwhile : Change → Run σ → σ × Bool) (heeds : Bool)
    (changes : List Change) (run : Run σ) :
    let mode : Mode := .inOrder heeds
    let deploy := amid meanwhile (standardDeployer service config leftOut)
    let turns := mode.turns deploy changes run
    (mode.deploy deploy changes run).1 = .ofOutcomes (turns.map Turn.outcome) ∧
    (turns.map Turn.outcome = turns.map fun turn =>
      (attempt mode.heeds deploy turn.change turn.run).1) ∧
    turns.map Turn.change = (ordered changes).mapIdx fun n input =>
      input.withSnapshots (latestValue? (turns.take n)) := by
  intro mode deploy turns
  refine ⟨?_, ?_, ?_⟩
  · rw [Mode.deploy_eq]
  · exact List.map_congr_left fun turn hturn =>
      mode.outcome_of_mem_turns deploy changes run hturn
  · exact changes_of_turns ((standardDeployer_settling service config leftOut).amid meanwhile)
      heeds changes run

/-! ## Snapshots that stand -/

/-- No snapshot is of an element that the batch adds, and a snapshot of an element that it
modifies has the value after that. -/
structure SnapshotsStand (changes : List Change) : Prop where
  not_added : ∀ change ∈ changes, ∀ snapshot ∈ change.data.parents, ∀ other ∈ changes,
    other.action = .add → other.elemId ≠ snapshot.elemId
  modified : ∀ change ∈ changes, ∀ snapshot ∈ change.data.parents, ∀ other ∈ changes,
    other.action = .modify → other.elemId = snapshot.elemId → snapshot.value = other.data.value

/-- Where the snapshots stand, each change is handed over as it was given, whatever becomes of
the changes before it. -/
theorem SnapshotsStand.changes_of_turns {changes : List Change} (h : SnapshotsStand changes)
    {deploy : Deployer σ} (hdeploy : Settling deploy) (heeds : Bool) (run : Run σ) :
    (Mode.turns (.inOrder heeds) deploy changes run).map Turn.change = ordered changes := by
  rw [Batch.changes_of_turns hdeploy]
  refine List.ext_getElem? fun n => ?_
  rw [List.getElem?_mapIdx]
  cases hinput : (ordered changes)[n]? with
  | none => rfl
  | some input =>
    have hchange := (ordered_perm changes).mem_iff.mp (List.mem_of_getElem? hinput)
    refine congrArg some (input.withSnapshots_eq_self _ fun snapshot hsnapshot => ?_)
    cases hlatest : latestValue? ((Mode.turns (.inOrder heeds) deploy changes run).take n)
        snapshot.elemId with
    | none => rfl
    | some value =>
      -- the value was left by another change of the batch: the snapshot has it already
      obtain ⟨turn, hturn, hleft⟩ := exists_left_of_latest hlatest
      obtain ⟨other, hother, latest, hgiven⟩ :=
        Mode.input_of_mem_turns hdeploy _ changes run (List.mem_of_mem_take hturn)
      have hkept := Turn.left?_eq_some hleft
      rw [hgiven, Change.elemId_withSnapshots, Change.action_withSnapshots,
        Change.value_withSnapshots] at hkept
      obtain ⟨hid, hadd | ⟨hmodify, hvalue⟩⟩ := hkept
      · exact absurd hid (h.not_added input hchange snapshot hsnapshot other hother hadd)
      · rw [Option.getD_some, h.modified input hchange snapshot hsnapshot other hother hmodify hid,
          hvalue]

end Batch

end Rollout
