import Rollout.Proofs.Batch.Calls

/-!
# Interruptions

A batch that heeds interruptions is cut after the turn in whose call one is asked for. Up to
there each change has its own outcome; the changes after it are not sent, and reported as
interrupted. An interruption is never taken back, so no later batch of a session that heeds it
sends anything, while a batch that does not heed it is deployed as if none were asked for.

A turn sees whether an interruption was asked for in the turns before it: every turn keeps this,
and the cut is read off it.
-/

namespace Rollout

namespace Batch

variable {σ : Type}

/-- An interruption is asked for during the call of a turn, if the call is made. -/
def Turn.asks (service : Service σ) (config : DeployConfig) (leftOut : LeftOut)
    (turn : Turn σ) : Bool :=
  (requestOf? config leftOut turn.change).any fun request =>
    (service.answer turn.run.service request).1.interrupts

/-- How many turns are taken before a batch is cut: none if an interruption was asked for
before, else those up to the first one that asks for it, this one included. -/
def cut (asks : Turn σ → Bool) (run : Run σ) (turns : List (Turn σ)) : Nat :=
  if run.interrupted then 0 else turns.findIdx asks + 1

/-- A batch is cut: the turns taken have their own outcomes and their calls, and what is left is
reported as interrupted. -/
structure CutCleanly (service : Service σ) (config : DeployConfig) (leftOut : LeftOut)
    (run : Run σ) (taken : List (Turn σ)) (left : List Change) (after : Result × Run σ) :
    Prop where
  outcome : ∀ turn ∈ taken,
    turn.outcome = (standardDeployer service config leftOut turn.change turn.run).1 ∧
      turn.outcome.Settles turn.change
  applied : after.1.applied = (Result.ofOutcomes (taken.map Turn.outcome)).applied
  errors : after.1.errors = (Result.ofOutcomes (taken.map Turn.outcome)).errors ++
    left.map fun change => .of change.elemId .interrupted
  not_interrupted : ∀ e ∈ (Result.ofOutcomes (taken.map Turn.outcome)).errors,
    e.kind ≠ .interrupted
  calls : after.2.calls = run.calls ++
    taken.flatMap fun turn => (requestOf? config leftOut turn.change).toList
  interrupted : after.2.interrupted =
    (run.interrupted || taken.any (Turn.asks service config leftOut))

/-- A batch of a session, and what it is deployed with. -/
structure Job (σ : Type) where
  mode : Mode
  service : Service σ
  config : DeployConfig
  leftOut : LeftOut
  changes : List Change

def Job.deploy (job : Job σ) (run : Run σ) : Result × Run σ :=
  job.mode.deploy (standardDeployer job.service job.config job.leftOut) job.changes run

/-- The run after some batches, one after the other. -/
def Run.through (run : Run σ) (jobs : List (Job σ)) : Run σ :=
  jobs.foldl (fun run job => (job.deploy run).2) run

end Batch

/-- The same service, without asking for interruptions. -/
def Service.calm {σ : Type} (service : Service σ) : Service σ where
  answer state request :=
    ({ (service.answer state request).1 with interrupts := false },
      (service.answer state request).2)

namespace Batch

/-- The same run, as if no interruption had been asked for. -/
def Run.calm (run : Run σ) : Run σ := { run with interrupted := false }

/-- A deployer asks for an interruption in just the turns that a test tells. -/
def Asking (asks : Turn σ → Bool) (deploy : Deployer σ) : Prop :=
  ∀ change run, (deploy change run).2.interrupted =
    (run.interrupted || asks ⟨change, run, (deploy change run).1⟩)

theorem standardDeployer_asking (service : Service σ) (config : DeployConfig)
    (leftOut : LeftOut) :
    Asking (Turn.asks service config leftOut) (standardDeployer service config leftOut) := by
  intro change run
  rw [standardDeployer, Turn.asks, requestOf?]
  cases h : (change.request (config.endpointsFor change.data.typeName) leftOut).outcome with
  | error e => simp [deployChange_of_error service run h, Run.warned, Except.toOption]
  | ok request => simp [deployChange_of_ok service run h, Run.send, Run.warned, Except.toOption]

theorem any_take_eq {α : Type} (test : α → Bool) {xs : List α} {n : Nat} (h : n ≤ xs.length) :
    (xs.take n).any test = decide (xs.findIdx test < n) := by
  rw [Bool.eq_iff_iff, List.any_eq_true, ← List.findIdx_lt_length, List.findIdx_take,
    List.length_take, decide_eq_true_eq]
  omega

/-- What is asked for after the cut changes nothing. -/
theorem any_take_cut (asks : Turn σ → Bool) (run : Run σ) (turns : List (Turn σ)) :
    (run.interrupted || (turns.take (cut asks run turns)).any asks) =
      (run.interrupted || turns.any asks) := by
  rw [cut]
  cases run.interrupted with
  | true => simp
  | false =>
    rw [if_neg Bool.false_ne_true]
    rcases Nat.lt_or_ge (turns.findIdx asks) turns.length with hlt | hge
    · have hall := any_take_eq asks (le_refl turns.length)
      rw [List.take_length] at hall
      rw [any_take_eq asks hlt, hall, decide_eq_true hlt, decide_eq_true (Nat.lt_succ_self _)]
    · rw [List.take_of_length_le (by omega)]

namespace Asking

variable {asks : Turn σ → Bool} {deploy : Deployer σ}

theorem attempt (h : Asking asks deploy) (heeds : Bool) :
    Asking asks (attempt heeds deploy) := by
  intro change run
  rw [Batch.attempt]
  split
  · -- nothing is asked for, but then that was asked for already
    rename_i hskipped
    simp [(Bool.and_eq_true_iff.mp hskipped).2]
  · exact h change run

variable {mode : Mode} {changes : List Change} {run : Run σ}

private theorem step (h : Asking asks deploy) {queue : Queue σ}
    (hqueue : queue.run.interrupted = (run.interrupted || queue.turns.any asks)) :
    (queue.step mode deploy).run.interrupted =
      (run.interrupted || (queue.step mode deploy).turns.any asks) := by
  cases hpending : queue.pending with
  | nil => rwa [Queue.step_nil hpending]
  | cons change pending =>
    rw [Queue.step_cons hpending, (mode.note_alike _ _).interrupted,
      h.attempt mode.heeds change queue.run, hqueue]
    simp [Bool.or_assoc]

theorem interrupted_deploy (h : Asking asks deploy) :
    (mode.deploy deploy changes run).2.interrupted =
      (run.interrupted || (mode.turns deploy changes run).any asks) := by
  rw [(mode.deploy_alike deploy changes run).interrupted]
  apply mode.queue_keeps deploy changes run fun queue =>
    queue.run.interrupted = (run.interrupted || queue.turns.any asks)
  · simp [Queue.start]
  · exact fun _ hqueue => h.step hqueue

/-- A turn sees whether an interruption was asked for before the batch or in a turn before. -/
private theorem interrupted_of_turn (h : Asking asks deploy) {n : Nat} {turn : Turn σ}
    (hturn : (mode.turns deploy changes run)[n]? = some turn) :
    turn.run.interrupted =
      (run.interrupted || ((mode.turns deploy changes run).take n).any asks) := by
  obtain ⟨queue, hqueue, hturns, hrun, _⟩ := mode.queue_of_turn deploy changes run
    (fun queue => queue.run.interrupted = (run.interrupted || queue.turns.any asks))
    (by simp [Queue.start]) (fun _ hqueue => h.step hqueue) hturn
  rw [← hrun, hqueue, hturns]

private theorem interrupted_iff_cut (h : Asking asks deploy) {n : Nat} {turn : Turn σ}
    (hturn : (mode.turns deploy changes run)[n]? = some turn) :
    turn.run.interrupted = true ↔ cut asks run (mode.turns deploy changes run) ≤ n := by
  have hn := (List.getElem?_eq_some_iff.mp hturn).1
  rw [h.interrupted_of_turn hturn, any_take_eq asks hn.le, cut]
  cases run.interrupted with
  | true => simp
  | false =>
    simp only [Bool.false_or, decide_eq_true_eq, Bool.false_eq_true, if_false]
    omega

theorem outcome_before_cut (h : Asking asks deploy) {turn : Turn σ}
    (hturn : turn ∈ (mode.turns deploy changes run).take
      (cut asks run (mode.turns deploy changes run))) :
    turn.outcome = (deploy turn.change turn.run).1 := by
  obtain ⟨n, hn, hget⟩ := List.mem_take_iff_getElem.mp hturn
  have hturn' : (mode.turns deploy changes run)[n]? = some turn :=
    List.getElem?_eq_some_iff.mpr ⟨by omega, hget⟩
  have hgoes : turn.run.interrupted = false := by
    rw [← Bool.not_eq_true, h.interrupted_iff_cut hturn']
    omega
  rw [mode.outcome_of_mem_turns deploy changes run (List.mem_of_getElem? hturn'),
    attempt_of_not_interrupted mode.heeds deploy turn.change hgoes]

theorem outcome_after_cut (h : Asking asks deploy) (hheeds : mode.heeds = true) {turn : Turn σ}
    (hturn : turn ∈ (mode.turns deploy changes run).drop
      (cut asks run (mode.turns deploy changes run))) :
    turn.outcome = ⟨turn.change, .error .interrupted⟩ := by
  obtain ⟨n, hget⟩ := List.mem_iff_getElem?.mp hturn
  rw [List.getElem?_drop] at hget
  have hskipped := (h.interrupted_iff_cut hget).mpr (by omega)
  rw [mode.outcome_of_mem_turns deploy changes run (List.mem_of_getElem? hget), hheeds,
    attempt_of_interrupted deploy turn.change hskipped]

end Asking

/-! ## Batches that heed interruptions -/

section Cut

variable (service : Service σ) (config : DeployConfig) (leftOut : LeftOut) (mode : Mode)
  (changes : List Change) (run : Run σ)

private theorem elemIds_of_turns :
    (mode.turns (standardDeployer service config leftOut) changes run).map
        (fun turn => turn.change.elemId) = (mode.inputs changes).map Change.elemId := by
  have hchanges := mode.changes_of_turns (standardDeployer_settling service config leftOut)
    changes run
  have helemIds := congrArg (List.map Change.elemId) hchanges
  rw [List.map_map] at helemIds
  rw [show (fun turn : Turn σ => turn.change.elemId) = Change.elemId ∘ Turn.change from rfl,
    helemIds]
  refine List.ext_getElem? fun n => ?_
  simp [Function.comp_def]

private theorem sent_of_left {turn : Turn σ}
    (h : turn.outcome = ⟨turn.change, .error .interrupted⟩) :
    turn.sent config leftOut = [] := by
  rw [Turn.sent, h]
  rfl

private theorem ofOutcomes_left {turns : List (Turn σ)} {left : List Change}
    (hturns : ∀ turn ∈ turns, turn.outcome = ⟨turn.change, .error .interrupted⟩)
    (hleft : turns.map (fun turn => turn.change.elemId) = left.map Change.elemId) :
    Result.ofOutcomes (turns.map Turn.outcome) =
      ⟨[], left.map fun change => .of change.elemId .interrupted⟩ := by
  have herrors := congrArg (List.map fun elemId => ChangeError.of elemId .interrupted) hleft
  rw [List.map_map, List.map_map] at herrors
  rw [List.map_congr_left hturns]
  simpa [Result.ofOutcomes, List.filterMap_map, Function.comp_def] using herrors

/-- The batch is cut where the turns that heed interruptions no longer go on. -/
private theorem cutCleanly (hheeds : mode.heeds = true) :
    let turns := mode.turns (standardDeployer service config leftOut) changes run
    let n := cut (Turn.asks service config leftOut) run turns
    CutCleanly service config leftOut run (turns.take n) ((mode.inputs changes).drop n)
      (mode.deploy (standardDeployer service config leftOut) changes run) := by
  intro turns n
  have hasking := standardDeployer_asking service config leftOut
  have htaken : ∀ turn ∈ turns.take n,
      turn.outcome = (standardDeployer service config leftOut turn.change turn.run).1 :=
    fun turn hturn => hasking.outcome_before_cut hturn
  have hleft : ∀ turn ∈ turns.drop n, turn.outcome = ⟨turn.change, .error .interrupted⟩ :=
    fun turn hturn => hasking.outcome_after_cut hheeds hturn
  have helemIds : (turns.drop n).map (fun turn => turn.change.elemId) =
      ((mode.inputs changes).drop n).map Change.elemId := by
    rw [List.map_drop, List.map_drop, elemIds_of_turns]
  have hresult : (mode.deploy (standardDeployer service config leftOut) changes run).1 =
      .ofOutcomes ((turns.take n).map Turn.outcome ++ (turns.drop n).map Turn.outcome) := by
    rw [← List.map_append, List.take_append_drop, mode.deploy_eq]
  rw [ofOutcomes_append, ofOutcomes_left hleft helemIds] at hresult
  constructor
  · intro turn hturn
    refine ⟨htaken turn hturn, ?_⟩
    rw [htaken turn hturn]
    exact standardDeployer_settling service config leftOut turn.change turn.run
  · rw [hresult, List.append_nil]
  · rw [hresult]
  · intro e he
    obtain ⟨outcome, hmem, cause, hcause, rfl⟩ := exists_outcome_of_mem_errors he
    obtain ⟨turn, hturn, rfl⟩ := List.mem_map.mp hmem
    rw [htaken turn hturn] at hcause
    exact standardDeployer_not_interrupted service config leftOut _ _ hcause
  · have hcalls := (standardDeployer_telling service config leftOut).calls_deploy mode changes run
    rw [hcalls, ← List.take_append_drop n (mode.turns _ changes run), List.flatMap_append,
      List.flatMap_congr fun turn hturn => sent_of_outcome (htaken turn hturn),
      List.flatMap_congr fun turn hturn => sent_of_left config leftOut (hleft turn hturn)]
    simp
  · rw [hasking.interrupted_deploy]
    exact (any_take_cut _ run turns).symm

end Cut

/-! ## Sessions -/

section Sessions

variable {run : Run σ}

private theorem interrupted_job (job : Job σ) (h : run.interrupted = true) :
    (job.deploy run).2.interrupted = true := by
  have hasking := standardDeployer_asking job.service job.config job.leftOut
  rw [Job.deploy, hasking.interrupted_deploy, h, Bool.true_or]

private theorem interrupted_through (jobs : List (Job σ)) (h : run.interrupted = true) :
    (run.through jobs).interrupted = true := by
  induction jobs generalizing run with
  | nil => exact h
  | cons job jobs ih => exact ih (interrupted_job job h)

/-- A batch that heeds interruptions and comes after one sends nothing. -/
private theorem job_after_interruption (job : Job σ) (hheeds : job.mode.heeds = true)
    (h : run.interrupted = true) :
    (job.deploy run).2.calls = run.calls ∧
      (job.deploy run).1 = ⟨[], (job.mode.inputs job.changes).map fun change =>
        .of change.elemId .interrupted⟩ := by
  have hcut := cutCleanly job.service job.config job.leftOut job.mode job.changes run hheeds
  simp only [cut, h, if_true, List.take_zero, List.drop_zero] at hcut
  have happlied : (job.deploy run).1.applied = [] := hcut.applied
  have herrors : (job.deploy run).1.errors = (job.mode.inputs job.changes).map fun change =>
      .of change.elemId .interrupted := hcut.errors
  have hcalls : (job.deploy run).2.calls = run.calls := by
    rw [Job.deploy, hcut.calls, List.flatMap_nil, List.append_nil]
  refine ⟨hcalls, ?_⟩
  rw [← happlied, ← herrors]

end Sessions

/-! ## Batches that do not heed interruptions -/

private theorem standardDeployer_calm (service : Service σ) (config : DeployConfig)
    (leftOut : LeftOut) (change : Change) (run : Run σ) :
    standardDeployer service.calm config leftOut change run.calm =
      ((standardDeployer service config leftOut change run).1,
        (standardDeployer service config leftOut change run).2.calm) := by
  rw [standardDeployer, standardDeployer]
  cases h : (change.request (config.endpointsFor change.data.typeName) leftOut).outcome with
  | error e =>
    rw [deployChange_of_error service.calm run.calm h, deployChange_of_error service run h]
    rfl
  | ok request =>
    rw [deployChange_of_ok service.calm run.calm h, deployChange_of_ok service run h]
    rfl

private theorem record_calm (run : Run σ) (outcome : Outcome) :
    run.calm.record outcome = (run.record outcome).calm := by
  rw [Run.record, Run.record]
  cases outcome.result <;> rfl

private theorem deployPending_calm {deploy deploy' : Deployer σ}
    (h : ∀ change run, deploy' change run.calm =
      ((deploy change run).1, (deploy change run).2.calm))
    (deployed : List Entity) (changes : List Change) (run : Run σ) :
    deployPending false deploy' deployed changes run.calm =
      ((deployPending false deploy deployed changes run).1,
        (deployPending false deploy deployed changes run).2.calm) := by
  induction changes generalizing deployed run with
  | nil => rfl
  | cons change changes ih =>
    simp only [deployPending, attempt, Bool.false_and, Bool.false_eq_true, if_false, h,
      record_calm, ih]

/-- Interruptions cut a batch cleanly. If a batch heeds them, every change up to the call in
which one is asked for has its own outcome and its call, and exactly the changes after it, in the
order in which the batch is processed, are reported as interrupted; all of them are, and nothing
is sent, if it was asked for before the batch. It is not taken back, whatever batches follow, so
that each later one that heeds it sends nothing. A batch that does not heed interruptions is
deployed as if none had been asked for and none were asked for in its calls. -/
theorem interruption_cuts_cleanly (service : Service σ) (config : DeployConfig)
    (leftOut : LeftOut) :
    (∀ (mode : Mode) (changes : List Change) (run : Run σ), mode.heeds = true →
      let deploy := standardDeployer service config leftOut
      let turns := mode.turns deploy changes run
      let n := cut (Turn.asks service config leftOut) run turns
      turns.map Turn.change = (mode.inputs changes).mapIdx (fun i input =>
        input.withSnapshots (mode.known? (turns.take i))) ∧
      CutCleanly service config leftOut run (turns.take n) ((mode.inputs changes).drop n)
        (mode.deploy deploy changes run)) ∧
    (∀ (run : Run σ) (earlier later : List (Job σ)), (run.through earlier).interrupted = true →
      let now := run.through (earlier ++ later)
      now.interrupted = true ∧ ∀ job : Job σ, job.mode.heeds = true →
        (job.deploy now).2.calls = now.calls ∧
        (job.deploy now).1 = ⟨[], (job.mode.inputs job.changes).map fun change =>
          .of change.elemId .interrupted⟩) ∧
    ∀ (changes : List Change) (run : Run σ),
      deployChanges (standardDeployer service.calm config leftOut) changes run.calm =
        ((deployChanges (standardDeployer service config leftOut) changes run).1,
          (deployChanges (standardDeployer service config leftOut) changes run).2.calm) := by
  refine ⟨?_, ?_, ?_⟩
  · intro mode changes run hheeds
    have hsettling := standardDeployer_settling service config leftOut
    exact ⟨mode.changes_of_turns hsettling changes run,
      cutCleanly service config leftOut mode changes run hheeds⟩
  · intro run earlier later hearlier now
    have hnow : now.interrupted = true := by
      simp only [now, Run.through, List.foldl_append]
      exact interrupted_through later hearlier
    exact ⟨hnow, fun job hheeds => job_after_interruption job hheeds hnow⟩
  · intro changes run
    simp only [deployChanges,
      deployPending_calm (standardDeployer_calm service config leftOut)]

/-- A modification, for which there is no endpoint, and three additions. -/
def stoppedBatch : List Change :=
  [.modify (namedEntity "old" []) (namedEntity "old" []), .add (namedEntity "a" []),
    .add (namedEntity "b" []), .add (namedEntity "c" ["a"])]

def stoppedJob : Job Unit :=
  ⟨.inOrder true, stopping, addingOnly, LeftOut.nothing, stoppedBatch⟩

theorem interruption_cuts_cleanly_stoppedJob :
    let deploy := standardDeployer stopping addingOnly LeftOut.nothing
    let turns := Mode.turns (.inOrder true) deploy stoppedBatch (.start ())
    let after := stoppedJob.deploy (.start ())
    stoppedJob.mode.heeds = true ∧
    CutCleanly stopping addingOnly LeftOut.nothing (.start ()) (turns.take 2)
      ((Mode.inputs (.inOrder true) stoppedBatch).drop 2) after ∧
    after.1.applied.length = 1 ∧ after.1.errors.length = 3 ∧ after.2.calls.length = 1 ∧
    ((Run.start ()).through [stoppedJob]).interrupted = true ∧
    (stoppedJob.deploy after.2).2.calls = after.2.calls := by
  intro deploy turns after
  have hcut : cut (Turn.asks stopping addingOnly LeftOut.nothing) (.start ()) turns = 2 := by
    decide
  have hflag : ((Run.start ()).through [stoppedJob]).interrupted = true := by decide
  obtain ⟨hbatch, hsession, _⟩ := interruption_cuts_cleanly stopping addingOnly LeftOut.nothing
  have hclean := (hbatch (.inOrder true) stoppedBatch (.start ()) rfl).2
  have hnothing := (hsession (.start ()) [stoppedJob] [] hflag).2 stoppedJob rfl
  rw [hcut] at hclean
  exact ⟨rfl, hclean, by decide, by decide, by decide, hflag, hnothing.1⟩

end Batch

end Rollout
