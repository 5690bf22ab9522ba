import Rollout.Proofs.Batch.Deployer
import Rollout.Proofs.Order.Dependency

/-!
# Batches turn by turn

The three ways to deploy a batch as one queue of pending changes. In every turn the first
pending change is attempted as it stands; if an entity was deployed, it takes the place of its
snapshots in the changes that are left. The queue has the outcomes and the run of the way that
it stands for.
-/

namespace Rollout

@[simp] theorem Change.refreshed_nil (change : Change) : change.refreshed [] = change := by
  have hdata (data : Entity) : data.refreshed [] = data := by simp [Entity.refreshed]
  cases change <;> simp [refreshed, modifyData, hdata]

theorem Change.refreshed_append (change : Change) (first second : List Entity) :
    change.refreshed (first ++ second) = (change.refreshed first).refreshed second := by
  have hdata (data : Entity) :
      data.refreshed (first ++ second) = (data.refreshed first).refreshed second := by
    simp [Entity.refreshed]
  cases change <;> simp [refreshed, modifyData, hdata]

namespace Batch

variable {σ : Type}

/-- The ways to deploy a batch. -/
inductive Mode where
  /-- One change after the other; interruptions are heeded or not. -/
  | inOrder (heeds : Bool)
  | atOnce (limit : Nat)

/-- A change as it stands when its turn comes, the run at that moment, and what becomes of the
change. -/
structure Turn (σ : Type) where
  change : Change
  run : Run σ
  outcome : Outcome

/-- The turns so far and the changes left, as they stand now. -/
structure Queue (σ : Type) where
  turns : List (Turn σ)
  pending : List Change
  run : Run σ

namespace Mode

def heeds : Mode → Bool
  | .inOrder heeds => heeds
  | .atOnce _ => true

def deploy (mode : Mode) (deploy : Deployer σ) (changes : List Change) (run : Run σ) :
    Result × Run σ :=
  match mode with
  | .inOrder false => deployChanges deploy changes run
  | .inOrder true => deployUntil deploy changes run
  | .atOnce limit => deployConcurrently deploy limit changes run

/-- The order in which a batch is processed, as positions in the batch. -/
def order (mode : Mode) (changes : List Change) : List Nat :=
  match mode with
  | .inOrder _ => dependencyOrder changes
  | .atOnce _ => List.range changes.length

/-- The batch in the order in which it is processed. -/
def inputs (mode : Mode) (changes : List Change) : List Change :=
  (mode.order changes).filterMap fun i => changes[i]?

theorem order_perm (mode : Mode) (changes : List Change) :
    (mode.order changes).Perm (List.range changes.length) := by
  cases mode with
  | inOrder _ => exact dependencyOrder_perm changes
  | atOnce _ => exact .refl _

theorem inputs_perm (mode : Mode) (changes : List Change) :
    (mode.inputs changes).Perm changes := by
  have hperm := (mode.order_perm changes).filterMap fun i => changes[i]?
  rwa [filterMap_range] at hperm

/-- The pending changes after an outcome. -/
def refresh (mode : Mode) (outcome : Outcome) (pending : List Change) : List Change :=
  match mode with
  | .inOrder _ => pending.map fun change => change.refreshed outcome.deployed?.toList
  | .atOnce _ => pending

/-- Tells of a failure, if that is done at once. -/
def note (mode : Mode) (run : Run σ) (outcome : Outcome) : Run σ :=
  match mode with
  | .inOrder _ => run.record outcome
  | .atOnce _ => run

end Mode

namespace Queue

def start (changes : List Change) (run : Run σ) : Queue σ := ⟨[], changes, run⟩

/-- Takes the first turn that is left. -/
def step (mode : Mode) (deploy : Deployer σ) (queue : Queue σ) : Queue σ :=
  match queue.pending with
  | [] => queue
  | change :: pending =>
    let (outcome, run) := attempt mode.heeds deploy change queue.run
    { turns := queue.turns ++ [⟨change, queue.run, outcome⟩]
      pending := mode.refresh outcome pending
      run := mode.note run outcome }

def steps (mode : Mode) (deploy : Deployer σ) : Nat → Queue σ → Queue σ
  | 0, queue => queue
  | n + 1, queue => steps mode deploy n (queue.step mode deploy)

end Queue

/-- The queue of a batch when all turns are taken. -/
def Mode.queue (mode : Mode) (deploy : Deployer σ) (changes : List Change) (run : Run σ) :
    Queue σ :=
  Queue.steps mode deploy changes.length (.start (mode.inputs changes) run)

/-- The turns of a batch, in the order in which it is processed. -/
def Mode.turns (mode : Mode) (deploy : Deployer σ) (changes : List Change) (run : Run σ) :
    List (Turn σ) :=
  (mode.queue deploy changes run).turns

/-! ## Results -/

theorem ofOutcomes_append (first second : List Outcome) :
    Result.ofOutcomes (first ++ second) =
      ⟨(Result.ofOutcomes first).applied ++ (Result.ofOutcomes second).applied,
        (Result.ofOutcomes first).errors ++ (Result.ofOutcomes second).errors⟩ := by
  simp [Result.ofOutcomes]

theorem exists_outcome_of_mem_errors {outcomes : List Outcome} {e : ChangeError}
    (h : e ∈ (Result.ofOutcomes outcomes).errors) :
    ∃ outcome ∈ outcomes, ∃ cause, outcome.result = .error cause ∧
      e = .of outcome.change.elemId cause := by
  obtain ⟨outcome, hmem, he⟩ := List.mem_filterMap.mp h
  cases hresult : outcome.result with
  | ok answer => simp [hresult] at he
  | error cause =>
    simp only [hresult, Option.some.injEq] at he
    exact ⟨outcome, hmem, cause, hresult, he.symm⟩

/-! ## Steps -/

theorem getElem?_concat_eq_some {α : Type} {xs : List α} {x y : α} {n : Nat}
    (h : (xs ++ [x])[n]? = some y) :
    (n < xs.length ∧ xs[n]? = some y) ∨ (n = xs.length ∧ y = x) := by
  rcases Nat.lt_or_ge n xs.length with hn | hn
  · rw [List.getElem?_append_left hn] at h
    exact .inl ⟨hn, h⟩
  · have hlt := (List.getElem?_eq_some_iff.mp h).1
    rw [List.length_append, List.length_singleton] at hlt
    obtain rfl : n = xs.length := by omega
    rw [List.getElem?_concat_length] at h
    exact .inr ⟨rfl, (Option.some.inj h).symm⟩

theorem Mode.note_alike (mode : Mode) (run : Run σ) (outcome : Outcome) :
    (mode.note run outcome).Alike run := by
  cases mode with
  | inOrder heeds => exact .record run outcome
  | atOnce limit => exact .refl run

namespace Queue

variable {mode : Mode} {deploy : Deployer σ} {queue : Queue σ}

theorem step_nil (h : queue.pending = []) : queue.step mode deploy = queue := by
  rw [step, h]

theorem step_cons {change : Change} {pending : List Change}
    (h : queue.pending = change :: pending) :
    queue.step mode deploy =
      { turns := queue.turns ++
          [⟨change, queue.run, (attempt mode.heeds deploy change queue.run).1⟩]
        pending := mode.refresh (attempt mode.heeds deploy change queue.run).1 pending
        run := mode.note (attempt mode.heeds deploy change queue.run).2
          (attempt mode.heeds deploy change queue.run).1 } := by
  rw [step, h]

/-- What every step keeps holds after any number of steps. -/
theorem steps_keep (holds : Queue σ → Prop)
    (hstep : ∀ queue, holds queue → holds (queue.step mode deploy)) (n : Nat)
    (h : holds queue) : holds (queue.steps mode deploy n) := by
  induction n generalizing queue with
  | zero => exact h
  | succ n ih => exact ih (hstep queue h)

@[simp] theorem length_refresh (mode : Mode) (outcome : Outcome) (pending : List Change) :
    (mode.refresh outcome pending).length = pending.length := by
  cases mode <;> simp [Mode.refresh]

theorem length_pending_steps (n : Nat) :
    (queue.steps mode deploy n).pending.length = queue.pending.length - n := by
  induction n generalizing queue with
  | zero => rfl
  | succ n ih =>
    rw [steps, ih]
    cases h : queue.pending with
    | nil => simp [step_nil h, h]
    | cons change pending =>
      rw [step_cons h, length_refresh, List.length_cons]
      omega

theorem length_step : (queue.step mode deploy).turns.length +
    (queue.step mode deploy).pending.length = queue.turns.length + queue.pending.length := by
  cases h : queue.pending with
  | nil => rw [step_nil h, h]
  | cons change pending =>
    rw [step_cons h, length_refresh, List.length_append]
    simp only [List.length_cons, List.length_nil]
    omega

end Queue

namespace Mode

variable (mode : Mode) (deploy : Deployer σ) (changes : List Change) (run : Run σ)

theorem length_inputs : (mode.inputs changes).length = changes.length :=
  (mode.inputs_perm changes).length_eq

theorem pending_queue : (mode.queue deploy changes run).pending = [] := by
  apply List.length_eq_zero_iff.mp
  rw [queue, Queue.length_pending_steps, Queue.start, length_inputs, Nat.sub_self]

/-- What holds of a batch before its first turn and is kept by every turn holds in the end. -/
theorem queue_keeps (holds : Queue σ → Prop)
    (hstart : holds (.start (mode.inputs changes) run))
    (hstep : ∀ queue, holds queue → holds (queue.step mode deploy)) :
    holds (mode.queue deploy changes run) :=
  Queue.steps_keep holds hstep changes.length hstart

/-- A turn was taken from a queue that has what holds before the first turn and is kept by
every turn. -/
theorem queue_of_turn (holds : Queue σ → Prop)
    (hstart : holds (.start (mode.inputs changes) run))
    (hstep : ∀ queue, holds queue → holds (queue.step mode deploy)) {n : Nat} {turn : Turn σ}
    (hturn : (mode.turns deploy changes run)[n]? = some turn) :
    ∃ queue : Queue σ, holds queue ∧ queue.turns = (mode.turns deploy changes run).take n ∧
      queue.run = turn.run ∧ queue.pending.head? = some turn.change := by
  refine (mode.queue_keeps deploy changes run (fun queue => holds queue ∧
    ∀ (n : Nat) (turn : Turn σ), queue.turns[n]? = some turn → ∃ source : Queue σ,
      holds source ∧ source.turns = queue.turns.take n ∧ source.run = turn.run ∧
        source.pending.head? = some turn.change) ⟨hstart, by simp [Queue.start]⟩ ?_).2 n turn hturn
  rintro queue ⟨hqueue, hturns⟩
  refine ⟨hstep queue hqueue, ?_⟩
  cases hpending : queue.pending with
  | nil => rwa [Queue.step_nil hpending]
  | cons change pending =>
    rw [Queue.step_cons hpending]
    intro n later hlater
    rcases getElem?_concat_eq_some hlater with ⟨hn, hlater⟩ | ⟨rfl, rfl⟩
    · rw [List.take_append_of_le_length hn.le]
      exact hturns n later hlater
    · exact ⟨queue, hqueue, by simp, rfl, by simp [hpending]⟩

theorem length_turns : (mode.turns deploy changes run).length = changes.length := by
  have hlength : (mode.queue deploy changes run).turns.length +
      (mode.queue deploy changes run).pending.length = changes.length := by
    apply mode.queue_keeps deploy changes run fun queue =>
      queue.turns.length + queue.pending.length = changes.length
    · simp [Queue.start, length_inputs]
    · intro queue hqueue
      exact Queue.length_step.trans hqueue
  rwa [pending_queue, List.length_nil, Nat.add_zero] at hlength

theorem outcome_of_mem_turns {turn : Turn σ} (h : turn ∈ mode.turns deploy changes run) :
    turn.outcome = (attempt mode.heeds deploy turn.change turn.run).1 := by
  refine mode.queue_keeps deploy changes run (fun queue => ∀ turn ∈ queue.turns,
    turn.outcome = (attempt mode.heeds deploy turn.change turn.run).1) ?_ ?_ turn h
  · simp [Queue.start]
  · intro queue hqueue
    cases hpending : queue.pending with
    | nil => rwa [Queue.step_nil hpending]
    | cons change pending =>
      rw [Queue.step_cons hpending]
      intro later hlater
      rcases List.mem_append.mp hlater with hlater | hlater
      · exact hqueue later hlater
      · rw [List.mem_singleton.mp hlater]

end Mode

/-- At once, the changes are handed over as they were given. -/
theorem changes_of_turns_atOnce (deploy : Deployer σ) (limit : Nat) (changes : List Change)
    (run : Run σ) :
    (Mode.turns (.atOnce limit) deploy changes run).map Turn.change =
      Mode.inputs (.atOnce limit) changes := by
  have hall : (Mode.queue (.atOnce limit) deploy changes run).turns.map Turn.change ++
      (Mode.queue (.atOnce limit) deploy changes run).pending =
        Mode.inputs (.atOnce limit) changes := by
    apply Mode.queue_keeps (.atOnce limit) deploy changes run fun queue =>
      queue.turns.map Turn.change ++ queue.pending = Mode.inputs (.atOnce limit) changes
    · rfl
    · intro queue hqueue
      cases hpending : queue.pending with
      | nil => rwa [Queue.step_nil hpending]
      | cons change pending =>
        simpa [Queue.step_cons hpending, Mode.refresh, hpending] using hqueue
  rwa [Mode.pending_queue, List.append_nil] at hall

/-! ## The queue stands for the batch -/

private theorem deployPending_eq_steps (heeds : Bool) (deploy : Deployer σ)
    (deployed : List Entity) (changes : List Change) (turns : List (Turn σ)) (run : Run σ) :
    ∃ more, (Queue.steps (.inOrder heeds) deploy changes.length
        ⟨turns, changes.map fun change => change.refreshed deployed, run⟩).turns =
          turns ++ more ∧
      deployPending heeds deploy deployed changes run =
        (more.map Turn.outcome, (Queue.steps (.inOrder heeds) deploy changes.length
          ⟨turns, changes.map fun change => change.refreshed deployed, run⟩).run) := by
  induction changes generalizing deployed turns run with
  | nil => exact ⟨[], by simp [Queue.steps], rfl⟩
  | cons change changes ih =>
    let outcome := (attempt heeds deploy (change.refreshed deployed) run).1
    let after := (attempt heeds deploy (change.refreshed deployed) run).2
    let turn : Turn σ := ⟨change.refreshed deployed, run, outcome⟩
    obtain ⟨more, hturns, hpending⟩ :=
      ih (deployed ++ outcome.deployed?.toList) (turns ++ [turn]) (after.record outcome)
    have hstep : Queue.step (.inOrder heeds) deploy
        ⟨turns, (change :: changes).map fun change => change.refreshed deployed, run⟩ =
        ⟨turns ++ [turn], changes.map fun change =>
          change.refreshed (deployed ++ outcome.deployed?.toList), after.record outcome⟩ := by
      simp [Queue.step, Mode.refresh, Mode.heeds, Mode.note, Change.refreshed_append, turn,
        outcome, after, Function.comp_def]
    refine ⟨turn :: more, ?_, ?_⟩
    · rw [List.length_cons, Queue.steps, hstep, hturns]
      simp
    · rw [List.length_cons, Queue.steps, hstep, deployPending]
      exact congrArg (fun rest => (outcome :: rest.1, rest.2)) hpending

theorem deployWindow_append (deploy : Deployer σ) (first second : List Change)
    (run : Run σ) :
    deployWindow deploy (first ++ second) run =
      ((deployWindow deploy first run).1 ++
          (deployWindow deploy second (deployWindow deploy first run).2).1,
        (deployWindow deploy second (deployWindow deploy first run).2).2) := by
  induction first generalizing run with
  | nil => rfl
  | cons change first ih =>
    rw [List.cons_append, deployWindow, deployWindow]
    simp only [ih, List.cons_append]

private theorem deployWindows_eq_flatten (deploy : Deployer σ) (batches : List (List Change))
    (run : Run σ) :
    deployWindows deploy batches run = deployWindow deploy batches.flatten run := by
  induction batches generalizing run with
  | nil => rfl
  | cons window batches ih =>
    rw [deployWindows, List.flatten_cons, deployWindow_append]
    simp only [ih]

theorem deployConcurrently_eq (deploy : Deployer σ) (limit : Nat) (changes : List Change)
    (run : Run σ) :
    deployConcurrently deploy limit changes run =
      (.ofOutcomes (deployWindow deploy changes run).1,
        (deployWindow deploy changes run).1.foldl Run.record
          (deployWindow deploy changes run).2) := by
  rw [deployConcurrently, deployWindows_eq_flatten, flatten_windows]

private theorem deployWindow_eq_steps (limit : Nat) (deploy : Deployer σ)
    (changes : List Change) (turns : List (Turn σ)) (run : Run σ) :
    ∃ more, (Queue.steps (.atOnce limit) deploy changes.length ⟨turns, changes, run⟩).turns =
        turns ++ more ∧
      deployWindow deploy changes run = (more.map Turn.outcome,
        (Queue.steps (.atOnce limit) deploy changes.length ⟨turns, changes, run⟩).run) := by
  induction changes generalizing turns run with
  | nil => exact ⟨[], by simp [Queue.steps], rfl⟩
  | cons change changes ih =>
    let outcome := (attempt true deploy change run).1
    let after := (attempt true deploy change run).2
    let turn : Turn σ := ⟨change, run, outcome⟩
    obtain ⟨more, hturns, hpending⟩ := ih (turns ++ [turn]) after
    refine ⟨turn :: more, ?_, ?_⟩
    · rw [List.length_cons, Queue.steps]
      exact hturns.trans (by simp)
    · rw [List.length_cons, Queue.steps, deployWindow]
      exact congrArg (fun rest => (outcome :: rest.1, rest.2)) hpending

/-- What a way to deploy a batch gives, in terms of its queue. -/
theorem Mode.deploy_eq (mode : Mode) (deploy : Deployer σ) (changes : List Change)
    (run : Run σ) :
    mode.deploy deploy changes run =
      (.ofOutcomes ((mode.turns deploy changes run).map Turn.outcome),
        match mode with
        | .inOrder _ => (mode.queue deploy changes run).run
        | .atOnce _ => ((mode.turns deploy changes run).map Turn.outcome).foldl Run.record
            (mode.queue deploy changes run).run) := by
  cases mode with
  | inOrder heeds =>
    obtain ⟨more, hturns, hpending⟩ :=
      deployPending_eq_steps heeds deploy [] (ordered changes) [] run
    simp only [Change.refreshed_nil, List.map_id_fun', id_eq, List.nil_append,
      (ordered_perm changes).length_eq] at hturns hpending
    rw [Mode.turns, Mode.queue, show Mode.inputs (.inOrder heeds) changes = ordered changes from
      rfl, Queue.start, hturns]
    cases heeds with
    | false => simp only [Mode.deploy, deployChanges, hpending]
    | true => simp only [Mode.deploy, deployUntil, hpending]
  | atOnce limit =>
    obtain ⟨more, hturns, hwindow⟩ := deployWindow_eq_steps limit deploy changes [] run
    have hinputs : Mode.inputs (.atOnce limit) changes = changes := filterMap_range changes
    rw [List.nil_append] at hturns
    simp only [Mode.deploy, Mode.turns, Mode.queue, Queue.start, hinputs, hturns,
      deployConcurrently_eq, hwindow]

/-- The run after a batch is that of its queue, but for the failures that are told of last. -/
theorem Mode.deploy_alike (mode : Mode) (deploy : Deployer σ) (changes : List Change)
    (run : Run σ) :
    (mode.deploy deploy changes run).2.Alike (mode.queue deploy changes run).run := by
  rw [mode.deploy_eq]
  cases mode with
  | inOrder heeds => exact .refl _
  | atOnce limit => exact .foldl_record _ _

end Batch

end Rollout
