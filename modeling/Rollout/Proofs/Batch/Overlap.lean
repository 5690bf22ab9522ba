import Mathlib.Data.List.Forall2
import Mathlib.Data.List.TakeWhile
import Rollout.Proofs.Batch.Queue

/-!
# Batches with calls in flight

However the replies come, the changes of a batch that is deployed at once begin in the order
given, what is sent is what they send as they begin, and no more calls than allowed wait for their
replies. A batch in which the calls complete at once is one of these; and what comes of any other
one is what would have come of it had each call completed at once, with the reply that it got.
-/

namespace Rollout.Batch

variable {σ : Type} {config : DeployConfig} {leftOut : LeftOut}

namespace Begun

section

variable (config : DeployConfig) (leftOut : LeftOut) (begun : Begun σ)

/-- How a change that is over came by its outcome. -/
inductive Course : Outcome → Prop where
  | interrupted (asked : begun.run.interrupted = true) :
      Course ⟨begun.change, .error .interrupted⟩
  | refused (goes : begun.run.interrupted = false) {e : BuildError}
      (refuses : (begun.change.request (config.endpointsFor begun.change.data.typeName)
        leftOut).outcome = .error e) :
      Course ⟨begun.change, .error (.build e)⟩
  | replied (goes : begun.run.interrupted = false) {request : Request}
      (built : (begun.change.request (config.endpointsFor begun.change.data.typeName)
        leftOut).outcome = .ok request)
      {reply : Except ClientError Response} (came : begun.reply? = some reply) :
      Course (concluded begun.change request reply)

/-- A turn is that of a change that has begun: the change is as it was then, and its outcome came
by its own course. -/
structure Takes (turn : Turn σ) : Prop where
  change : turn.change = begun.change
  run : turn.run = begun.run
  course : begun.Course config leftOut turn.outcome

/-- The requests that were sent as a change began. -/
def sent : List Request :=
  if begun.run.interrupted then [] else (requestOf? config leftOut begun.change).toList

/-- The turn of a change that is over. -/
def turn? : Option (Turn σ) :=
  (begun.outcome? config leftOut).map fun outcome => ⟨begun.change, begun.run, outcome⟩

end

variable {begun : Begun σ}

theorem outcome?_of_interrupted (h : begun.run.interrupted = true) :
    begun.outcome? config leftOut = some ⟨begun.change, .error .interrupted⟩ :=
  if_pos h

theorem outcome?_of_error (h : begun.run.interrupted = false) {e : BuildError}
    (herror : (begun.change.request (config.endpointsFor begun.change.data.typeName)
      leftOut).outcome = .error e) :
    begun.outcome? config leftOut = some ⟨begun.change, .error (.build e)⟩ := by
  simp only [outcome?, h, herror, Bool.false_eq_true, if_false]

theorem outcome?_of_ok (h : begun.run.interrupted = false) {request : Request}
    (hok : (begun.change.request (config.endpointsFor begun.change.data.typeName)
      leftOut).outcome = .ok request) :
    begun.outcome? config leftOut = begun.reply?.map (concluded begun.change request) := by
  simp only [outcome?, h, hok, Bool.false_eq_true, if_false]

/-- A change is over when the reply to the call for it has come, if not before. -/
theorem isOver_of_reply (begun : Begun σ) (reply : Except ClientError Response) :
    Begun.isOver config leftOut { begun with reply? := some reply } = true := by
  cases hrun : begun.run.interrupted with
  | true => simp only [isOver, outcome?, hrun, if_true, Option.isSome_some]
  | false =>
    cases hbuilt : (begun.change.request (config.endpointsFor begun.change.data.typeName)
        leftOut).outcome <;>
      simp only [isOver, outcome?, hrun, hbuilt, Bool.false_eq_true, if_false, Option.isSome_some,
        Option.map_some]

theorem course_of_outcome? {outcome : Outcome}
    (h : begun.outcome? config leftOut = some outcome) : begun.Course config leftOut outcome := by
  cases hrun : begun.run.interrupted with
  | true =>
    rw [outcome?_of_interrupted hrun] at h
    cases h
    exact .interrupted hrun
  | false =>
    cases hbuilt : (begun.change.request (config.endpointsFor begun.change.data.typeName)
        leftOut).outcome with
    | error e =>
      rw [outcome?_of_error hrun hbuilt] at h
      cases h
      exact .refused hrun hbuilt
    | ok request =>
      rw [outcome?_of_ok hrun hbuilt] at h
      obtain ⟨reply, hreply, rfl⟩ := Option.map_eq_some_iff.mp h
      exact .replied hrun hbuilt hreply

theorem Course.settles {outcome : Outcome} (h : begun.Course config leftOut outcome) :
    outcome.Settles begun.change := by
  cases h with
  | interrupted => rfl
  | refused => rfl
  | replied => exact concluded_settles begun.change _ _

end Begun

theorem Run.calls_begin (change : Change) (run : Run σ) :
    (run.begin config leftOut change).calls =
      run.calls ++ Begun.sent config leftOut ⟨change, run, none⟩ := by
  rw [Run.begin, Begun.sent]
  cases hrun : run.interrupted <;> simp [requestOf?]

theorem Run.begin_of_error {change : Change} {run : Run σ} (h : run.interrupted = false)
    {e : BuildError} (herror : (change.request (config.endpointsFor change.data.typeName)
      leftOut).outcome = .error e) :
    run.begin config leftOut change =
      run.warned change (config.endpointsFor change.data.typeName) leftOut := by
  simp [Run.begin, Run.warned, h, herror, Except.toOption]

theorem Run.begin_of_ok {change : Change} {run : Run σ} (h : run.interrupted = false)
    {request : Request} (hok : (change.request (config.endpointsFor change.data.typeName)
      leftOut).outcome = .ok request) :
    run.begin config leftOut change =
      { run.warned change (config.endpointsFor change.data.typeName) leftOut with
        calls := run.calls ++ [request] } := by
  simp [Run.begin, Run.warned, h, hok, Except.toOption]

theorem Run.interrupted_begin (change : Change) (run : Run σ) :
    (run.begin config leftOut change).interrupted = run.interrupted := by
  rw [Run.begin]
  split <;> rfl

namespace Flight

/-- The turns of the changes that are over, in the order in which these began. -/
def turns (config : DeployConfig) (leftOut : LeftOut) (flight : Flight σ) : List (Turn σ) :=
  flight.begun.filterMap (Begun.turn? config leftOut)

variable {limit : Nat} {changes : List Change} {run : Run σ} {flight : Flight σ}

theorem Reached.step {next : Flight σ} (h : Reached config leftOut limit changes run flight)
    (step : Step config leftOut limit flight next) :
    Reached config leftOut limit changes run next :=
  Relation.ReflTransGen.tail h step

/-- What holds of a batch before its first change begins and is kept by every step holds at any
point that the batch comes to. -/
theorem Reached.keeps (holds : Flight σ → Prop) (hstart : holds (.start changes run))
    (hstep : ∀ flight next, holds flight → Step config leftOut limit flight next → holds next)
    (h : Reached config leftOut limit changes run flight) : holds flight := by
  induction h with
  | refl => exact hstart
  | tail _ step ih => exact hstep _ _ ih step

/-! ## What every step keeps -/

/-- The changes begin in the order given, and none is lost. -/
theorem Reached.changes_eq (h : Reached config leftOut limit changes run flight) :
    flight.begun.map Begun.change ++ flight.pending = changes := by
  apply h.keeps fun flight => flight.begun.map Begun.change ++ flight.pending = changes
  · rfl
  · intro flight next hflight step
    cases step with
    | begin hnext => simpa [hnext] using hflight
    | reply hplace => simpa [hplace] using hflight
    | elsewhere => exact hflight

/-- What is sent is what the changes send as they begin. -/
theorem Reached.calls_eq (h : Reached config leftOut limit changes run flight) :
    flight.run.calls = run.calls ++ flight.begun.flatMap (Begun.sent config leftOut) := by
  apply h.keeps fun flight =>
    flight.run.calls = run.calls ++ flight.begun.flatMap (Begun.sent config leftOut)
  · simp [start]
  · intro flight next hflight step
    cases step with
    | begin hnext =>
      rw [Run.calls_begin, hflight, List.flatMap_append, List.append_assoc,
        List.flatMap_singleton]
    | reply hplace => simpa [hplace, Begun.sent] using hflight
    | elsewhere => exact hflight

/-- No more changes take up room than allowed. -/
theorem Reached.length_held_le (h : Reached config leftOut limit changes run flight) :
    (flight.held config leftOut).length ≤ max limit 1 := by
  apply h.keeps fun flight => (flight.held config leftOut).length ≤ max limit 1
  · simp [start, held]
  · intro flight next hflight step
    cases step with
    | begin hnext hroom =>
      rw [held] at hroom ⊢
      rw [List.dropWhile_append]
      split
      · apply (List.dropWhile_sublist _).length_le.trans
        simp
      · rw [List.length_append, List.length_singleton]
        exact hroom
    | @reply earlier later begun hplace hwaits reply =>
      -- the change that is over now may make room, but takes up none that it did not
      rw [held, hplace, List.dropWhile_append] at hflight
      rw [held, List.dropWhile_append]
      split at hflight
      · rename_i hearlier
        rw [if_pos hearlier, List.dropWhile_cons_of_pos (Begun.isOver_of_reply begun reply)]
        rw [List.dropWhile_cons_of_neg (by simp [hwaits])] at hflight
        have hlater := (List.dropWhile_sublist (l := later)
          (Begun.isOver config leftOut)).length_le
        rw [List.length_cons] at hflight
        omega
      · rename_i hearlier
        rw [if_neg hearlier]
        simpa using hflight
    | elsewhere => exact hflight

/-- No more calls than allowed wait for their replies. -/
theorem Reached.length_waiting_le (h : Reached config leftOut limit changes run flight) :
    (flight.begun.filter fun begun => !begun.isOver config leftOut).length ≤ max limit 1 := by
  have hover : (flight.begun.takeWhile (Begun.isOver config leftOut)).filter
      (fun begun => !begun.isOver config leftOut) = [] := by
    rw [List.filter_eq_nil_iff]
    intro begun hbegun
    simp [List.mem_takeWhile_imp hbegun]
  rw [← List.takeWhile_append_dropWhile (p := Begun.isOver config leftOut) (l := flight.begun),
    List.filter_append, hover, List.nil_append]
  exact (List.length_filter_le _ _).trans h.length_held_le

/-- An interruption that was asked for when a change began was asked for when any later one did,
and is now. -/
theorem Reached.interrupted_mono (h : Reached config leftOut limit changes run flight) :
    (flight.begun.map (fun begun => begun.run.interrupted) ++
      [flight.run.interrupted]).Pairwise (· ≤ ·) := by
  apply h.keeps fun flight => (flight.begun.map (fun begun => begun.run.interrupted) ++
    [flight.run.interrupted]).Pairwise (· ≤ ·)
  · simp [start]
  · intro flight next hflight step
    cases step with
    | begin hnext =>
      rw [Run.interrupted_begin, List.map_append, List.map_singleton, List.pairwise_append]
      refine ⟨hflight, List.pairwise_singleton _ _, fun earlier hearlier last hlast => ?_⟩
      rw [List.mem_singleton.mp hlast]
      rcases List.mem_append.mp hearlier with hbegun | hnow
      · exact (List.pairwise_append.mp hflight).2.2 earlier hbegun _ (List.mem_singleton_self _)
      · rw [List.mem_singleton.mp hnow]
    | reply hplace => simpa [hplace] using hflight
    | elsewhere state raised =>
      obtain ⟨hbegun, _, hnow⟩ := List.pairwise_append.mp hflight
      refine List.pairwise_append.mpr ⟨hbegun, List.pairwise_singleton _ _, ?_⟩
      intro earlier hearlier last hlast
      rw [List.mem_singleton.mp hlast]
      exact (hnow earlier hearlier _ (List.mem_singleton_self _)).trans (Bool.left_le_or _ _)

/-- A batch does not get stuck: unless a call waits for its reply, the next change can begin. -/
theorem exists_step (hbegun : ∀ begun ∈ flight.begun, begun.isOver config leftOut = true)
    (hpending : flight.pending ≠ []) :
    ∃ next, Step config leftOut limit flight next ∧
      next.begun.length = flight.begun.length + 1 := by
  obtain ⟨change, pending, hnext⟩ := List.exists_cons_of_ne_nil hpending
  refine ⟨_, .begin hnext ?_, List.length_append⟩
  rw [held, List.dropWhile_eq_nil_iff.mpr hbegun]
  simp

/-! ## Batches that are over -/

theorem outcomes_of_turns (config : DeployConfig) (leftOut : LeftOut) (flight : Flight σ) :
    (flight.turns config leftOut).map Turn.outcome =
      flight.begun.filterMap (Begun.outcome? config leftOut) := by
  simp [turns, Begun.turn?, List.map_filterMap, Function.comp_def]

theorem result_eq (config : DeployConfig) (leftOut : LeftOut) (flight : Flight σ) :
    flight.result config leftOut =
      (.ofOutcomes ((flight.turns config leftOut).map Turn.outcome),
        ((flight.turns config leftOut).map Turn.outcome).foldl Run.record flight.run) := by
  rw [outcomes_of_turns]
  rfl

theorem exists_begun_of_mem_turns {turn : Turn σ} (h : turn ∈ flight.turns config leftOut) :
    ∃ begun ∈ flight.begun, begun.Takes config leftOut turn := by
  obtain ⟨begun, hbegun, hturn⟩ := List.mem_filterMap.mp h
  obtain ⟨outcome, houtcome, rfl⟩ := Option.map_eq_some_iff.mp hturn
  exact ⟨begun, hbegun, rfl, rfl, Begun.course_of_outcome? houtcome⟩

/-- When a batch is over, each of its changes has had its turn. -/
theorem IsOver.turns_taken (hover : flight.IsOver config leftOut) :
    List.Forall₂ (Begun.Takes config leftOut) flight.begun (flight.turns config leftOut) := by
  have hbegun := hover.begun
  rw [turns]
  generalize flight.begun = all at hbegun
  induction all with
  | nil => exact .nil
  | cons begun all ih =>
    obtain ⟨outcome, houtcome⟩ := Option.isSome_iff_exists.mp (hbegun begun List.mem_cons_self)
    have hturn : begun.turn? config leftOut = some ⟨begun.change, begun.run, outcome⟩ := by
      rw [Begun.turn?, houtcome, Option.map_some]
    rw [List.filterMap_cons_some hturn]
    apply List.Forall₂.cons ⟨rfl, rfl, Begun.course_of_outcome? houtcome⟩
    exact ih fun later hlater => hbegun later (List.mem_cons_of_mem _ hlater)

/-- What is the same of each change that has begun and its turn is the same of all together. -/
theorem IsOver.map_turns {α : Type} {ofTurn : Turn σ → α} {ofBegun : Begun σ → α}
    (hover : flight.IsOver config leftOut)
    (h : ∀ begun turn, begun.Takes config leftOut turn → ofTurn turn = ofBegun begun) :
    (flight.turns config leftOut).map ofTurn = flight.begun.map ofBegun := by
  rw [← List.forall₂_eq_eq_eq, List.forall₂_map_left_iff, List.forall₂_map_right_iff]
  exact hover.turns_taken.flip.imp fun turn begun => h begun turn

theorem Reached.changes_of_begun (h : Reached config leftOut limit changes run flight)
    (hover : flight.IsOver config leftOut) : flight.begun.map Begun.change = changes := by
  have hchanges := h.changes_eq
  rwa [hover.pending, List.append_nil] at hchanges

theorem Reached.changes_of_turns (h : Reached config leftOut limit changes run flight)
    (hover : flight.IsOver config leftOut) :
    (flight.turns config leftOut).map Turn.change = changes :=
  (hover.map_turns fun _ _ htakes => htakes.change).trans (h.changes_of_begun hover)

end Flight

/-! ## Calls that complete at once -/

section AtOnce

variable (service : Service σ) (meanwhile : Change → Run σ → σ × Bool) {limit : Nat}
  {changes : List Change} {run : Run σ}

section Attempt

variable {start : Run σ} {begun : List (Begun σ)} {change : Change} {pending : List Change}

private theorem reached_begin (hover : ∀ earlier ∈ begun, earlier.isOver config leftOut = true)
    (h : Flight.Reached config leftOut limit changes start ⟨begun, change :: pending, run⟩) :
    Flight.Reached config leftOut limit changes start
      ⟨begun ++ [⟨change, run, none⟩], pending, run.begin config leftOut change⟩ := by
  apply h.step (.begin rfl _)
  rw [Flight.held, List.dropWhile_eq_nil_iff.mpr hover]
  simp

/-- A change begins, and if it is called for, the service replies before anything else happens. -/
private theorem reached_deployed
    (hover : ∀ earlier ∈ begun, earlier.isOver config leftOut = true)
    (hrun : run.interrupted = false)
    (h : Flight.Reached config leftOut limit changes start ⟨begun, change :: pending, run⟩) :
    let deployed := standardDeployer service config leftOut change run
    ∃ reply?, Begun.outcome? config leftOut ⟨change, run, reply?⟩ = some deployed.1 ∧
      Flight.Reached config leftOut limit changes start
        ⟨begun ++ [⟨change, run, reply?⟩], pending, deployed.2⟩ := by
  intro deployed
  have hbegin := reached_begin hover h
  cases hbuilt : (change.request (config.endpointsFor change.data.typeName) leftOut).outcome with
  | error e =>
    have hdeployed : deployed = _ := deployChange_of_error service run hbuilt
    rw [hdeployed]
    refine ⟨none, Begun.outcome?_of_error hrun hbuilt, ?_⟩
    rwa [Run.begin_of_error hrun hbuilt] at hbegin
  | ok request =>
    have hdeployed : deployed = _ := deployChange_of_ok service run hbuilt
    have hwaits : Begun.isOver config leftOut ⟨change, run, none⟩ = false := by
      rw [Begun.isOver, Begun.outcome?_of_ok hrun hbuilt]
      rfl
    have hreply := hbegin.step (.reply rfl hwaits (service.answer run.service request).1.outcome)
    rw [hdeployed]
    refine ⟨some (service.answer run.service request).1.outcome,
      Begun.outcome?_of_ok hrun hbuilt, ?_⟩
    rw [Run.begin_of_ok hrun hbuilt] at hreply
    exact hreply.step (.elsewhere _ (service.answer run.service request).2
      (service.answer run.service request).1.interrupts)

/-- A change whose call completes at once begins and is over before the next one begins. -/
private theorem reached_attempt
    (hover : ∀ earlier ∈ begun, earlier.isOver config leftOut = true)
    (h : Flight.Reached config leftOut limit changes start ⟨begun, change :: pending, run⟩) :
    let attempted := attempt true (amid meanwhile (standardDeployer service config leftOut))
      change run
    ∃ reply?, Begun.outcome? config leftOut ⟨change, run, reply?⟩ = some attempted.1 ∧
      Flight.Reached config leftOut limit changes start
        ⟨begun ++ [⟨change, run, reply?⟩], pending, attempted.2⟩ := by
  cases hrun : run.interrupted with
  | true =>
    have hbegin := reached_begin hover h
    rw [Run.begin, if_pos hrun] at hbegin
    rw [attempt_of_interrupted _ change hrun]
    exact ⟨none, Begun.outcome?_of_interrupted hrun, hbegin⟩
  | false =>
    obtain ⟨reply?, houtcome, hreached⟩ := reached_deployed service hover hrun h
    rw [attempt_of_not_interrupted true _ change hrun]
    exact ⟨reply?, houtcome, hreached.step (.elsewhere _ _ _)⟩

end Attempt

/-- A queue is a batch on its way, of which all that has begun is over. -/
def Queue.InFlight (config : DeployConfig) (leftOut : LeftOut) (limit : Nat)
    (changes : List Change) (run : Run σ) (queue : Queue σ) : Prop :=
  ∃ begun : List (Begun σ), (∀ earlier ∈ begun, earlier.isOver config leftOut = true) ∧
    begun.filterMap (Begun.turn? config leftOut) = queue.turns ∧
    Flight.Reached config leftOut limit changes run ⟨begun, queue.pending, queue.run⟩

private theorem Queue.InFlight.step {queue : Queue σ}
    (h : queue.InFlight config leftOut limit changes run) :
    Queue.InFlight config leftOut limit changes run
      (queue.step (.atOnce limit) (amid meanwhile (standardDeployer service config leftOut))) := by
  obtain ⟨begun, hover, hturns, hreached⟩ := h
  cases hpending : queue.pending with
  | nil =>
    rw [step_nil hpending]
    exact ⟨begun, hover, hturns, hreached⟩
  | cons change pending =>
    rw [hpending] at hreached
    obtain ⟨reply?, houtcome, hnext⟩ := reached_attempt service meanwhile hover hreached
    rw [step_cons hpending]
    refine ⟨begun ++ [⟨change, queue.run, reply?⟩], ?_, ?_, hnext⟩
    · intro earlier hearlier
      rcases List.mem_append.mp hearlier with hbegun | hlast
      · exact hover earlier hbegun
      · rw [List.mem_singleton.mp hlast, Begun.isOver, houtcome]
        rfl
    · rw [List.filterMap_append, hturns]
      simp [Begun.turn?, houtcome, Mode.heeds]

/-- A batch in which the calls complete at once is one that can be on its way. -/
theorem exists_flight_eq_deployConcurrently (limit : Nat) (changes : List Change)
    (run : Run σ) :
    let deploy := amid meanwhile (standardDeployer service config leftOut)
    ∃ flight, Flight.Reached config leftOut limit changes run flight ∧
      flight.IsOver config leftOut ∧
      flight.turns config leftOut = Mode.turns (.atOnce limit) deploy changes run ∧
      flight.result config leftOut = deployConcurrently deploy limit changes run := by
  intro deploy
  have hstart : Queue.InFlight config leftOut limit changes run
      (.start (Mode.inputs (.atOnce limit) changes) run) := by
    rw [show Mode.inputs (.atOnce limit) changes = changes from filterMap_range changes]
    exact ⟨[], by simp, rfl, .refl⟩
  obtain ⟨begun, hover, hturns, hreached⟩ := Mode.queue_keeps (.atOnce limit) deploy changes run
    (Queue.InFlight config leftOut limit changes run) hstart fun _ h => h.step service meanwhile
  refine ⟨_, hreached, ⟨Mode.pending_queue _ _ _ _, hover⟩, hturns, ?_⟩
  rw [Flight.result_eq, Flight.turns, hturns]
  exact (Mode.deploy_eq (.atOnce limit) deploy changes run).symm

end AtOnce

/-! ## The same replies at once -/

/-- A service that replies at once, to the call for the first change of those that are left, as was
replied to it. -/
def replaying : Service (List (Begun σ)) where
  answer left _ := (⟨(left.head?.bind Begun.reply?).getD (.ok ⟨200, .null⟩), false⟩, left)

/-- After a change the next one is the first that is left, and an interruption has been asked for
if it had been when that one began. -/
def toNext (_ : Change) (run : Run (List (Begun σ))) : List (Begun σ) × Bool :=
  (run.service.tail, run.service.tail.head?.any fun begun => begun.run.interrupted)

private theorem attempt_replaying {begun : Begun σ} {later : List (Begun σ)} {outcome : Outcome}
    (hcourse : begun.Course config leftOut outcome) (hgoes : begun.run.interrupted = false)
    {run : Run (List (Begun σ))} (hrun : run.interrupted = false)
    (hleft : run.service = begun :: later) :
    let attempted := attempt true (amid toNext (standardDeployer replaying config leftOut))
      begun.change run
    attempted.1 = outcome ∧ attempted.2.service = later ∧
      attempted.2.interrupted = (later.head?.any fun begun => begun.run.interrupted) ∧
      attempted.2.calls = run.calls ++ begun.sent config leftOut := by
  intro attempted
  have hattempted : attempted =
      amid toNext (standardDeployer replaying config leftOut) begun.change run :=
    attempt_of_not_interrupted true _ begun.change hrun
  have hcalls : attempted.2.calls = run.calls ++ begun.sent config leftOut := by
    rw [hattempted, Begun.sent, hgoes]
    exact calls_standardDeployer replaying config leftOut begun.change run
  cases hcourse with
  | interrupted hasked =>
    rw [hgoes] at hasked
    cases hasked
  | refused _ hrefuses =>
    rw [amid, standardDeployer, deployChange_of_error _ run hrefuses] at hattempted
    refine ⟨by rw [hattempted], ?_, ?_, hcalls⟩
    · simp [hattempted, toNext, Run.warned, hleft]
    · simp [hattempted, toNext, Run.warned, hleft, hrun]
  | replied _ hbuilt hcame =>
    rw [amid, standardDeployer, deployChange_of_ok _ run hbuilt] at hattempted
    refine ⟨?_, ?_, ?_, hcalls⟩
    · simp [hattempted, replaying, hleft, hcame]
    · simp [hattempted, toNext, replaying, Run.send, Run.warned, hleft]
    · simp [hattempted, toNext, replaying, Run.send, Run.warned, hleft, hrun]

/-- The changes that have begun, taken one after the other with the replies that they got, have
the same outcomes and send the same. -/
private theorem deployWindow_replaying {begun : List (Begun σ)}
    (hover : ∀ each ∈ begun, each.isOver config leftOut = true)
    (hmono : (begun.map fun each => each.run.interrupted).Pairwise (· ≤ ·))
    (run : Run (List (Begun σ))) (hrun : ∀ first ∈ begun.head?,
      run.interrupted = first.run.interrupted)
    (hleft : run.interrupted = false → run.service = begun) :
    let after := deployWindow (amid toNext (standardDeployer replaying config leftOut))
      (begun.map Begun.change) run
    after.1 = begun.filterMap (Begun.outcome? config leftOut) ∧
      after.2.calls = run.calls ++ begun.flatMap (Begun.sent config leftOut) := by
  induction begun generalizing run with
  | nil => exact ⟨rfl, (List.append_nil _).symm⟩
  | cons first later ih =>
    have hfirst := hrun first rfl
    obtain ⟨outcome, houtcome⟩ := Option.isSome_iff_exists.mp (hover first List.mem_cons_self)
    rw [List.map_cons, List.pairwise_cons] at hmono
    have hover' : ∀ each ∈ later, each.isOver config leftOut = true :=
      fun each heach => hover each (List.mem_cons_of_mem _ heach)
    rw [List.map_cons, deployWindow, List.filterMap_cons_some houtcome, List.flatMap_cons]
    cases hgoes : first.run.interrupted with
    | true =>
      -- an interruption was asked for when each later change began as well
      rw [hgoes] at hfirst
      rw [Begun.outcome?_of_interrupted hgoes] at houtcome
      have hskipped : attempt true (amid toNext (standardDeployer replaying config leftOut))
          first.change run = (outcome, run) := by
        rw [attempt_of_interrupted _ first.change hfirst, Option.some.inj houtcome]
      have hnext : ∀ next ∈ later.head?, run.interrupted = next.run.interrupted := by
        intro next hnext
        rw [hfirst]
        exact (Bool.le_iff_imp.mp
          (hmono.1 _ (List.mem_map_of_mem (List.mem_of_mem_head? hnext))) hgoes).symm
      have hlater := ih hover' hmono.2 run hnext fun hnot =>
        absurd (hfirst.symm.trans hnot) (by decide)
      simp only [hskipped, hlater]
      simp [Begun.sent, hgoes]
    | false =>
      rw [hgoes] at hfirst
      obtain ⟨hresult, hservice, hinterrupted, hcalls⟩ :=
        attempt_replaying (Begun.course_of_outcome? houtcome) hgoes hfirst (hleft hfirst)
      have hnext : ∀ next ∈ later.head?, (attempt true (amid toNext (standardDeployer replaying
          config leftOut)) first.change run).2.interrupted = next.run.interrupted := by
        intro next hnext
        rw [hinterrupted, Option.mem_def.mp hnext]
        rfl
      have hlater := ih hover' hmono.2 _ hnext fun _ => hservice
      simp only [hresult, hlater, hcalls, List.append_assoc, and_self]

/-- The run before the first change of a batch, with the replies that are to come. -/
def Flight.replayed (flight : Flight σ) (run : Run σ) : Run (List (Begun σ)) where
  service := flight.begun
  interrupted := flight.begun.head?.any fun first => first.run.interrupted
  calls := run.calls
  notices := run.notices

/-- What has come of a batch that is over, and what was sent for it, would have been the same had
each call completed at once, with the reply that it got. -/
theorem Flight.Reached.eq_deployConcurrently {limit : Nat} {changes : List Change} {run : Run σ}
    {flight : Flight σ} (h : Flight.Reached config leftOut limit changes run flight)
    (hover : flight.IsOver config leftOut) :
    let after := deployConcurrently (amid toNext (standardDeployer replaying config leftOut)) limit
      changes (flight.replayed run)
    (flight.result config leftOut).1 = after.1 ∧
      (flight.result config leftOut).2.calls = after.2.calls := by
  have hrun : ∀ first ∈ flight.begun.head?,
      (flight.replayed run).interrupted = first.run.interrupted := by
    intro first hfirst
    rw [replayed, Option.mem_def.mp hfirst]
    rfl
  have hwindow := deployWindow_replaying hover.begun
    (List.pairwise_append.mp h.interrupted_mono).1 (flight.replayed run) hrun fun _ => rfl
  rw [h.changes_of_begun hover] at hwindow
  rw [deployConcurrently_eq]
  constructor
  · exact congrArg Result.ofOutcomes hwindow.1.symm
  · calc (flight.result config leftOut).2.calls
      _ = flight.run.calls := (Run.Alike.foldl_record _ _).calls
      _ = run.calls ++ flight.begun.flatMap (Begun.sent config leftOut) := h.calls_eq
      _ = _ := hwindow.2.symm
      _ = _ := (Run.Alike.foldl_record _ _).calls.symm

/-! ## A small batch -/

/-- Two additions, and a modification for which there is no endpoint. -/
def crossedBatch : List Change :=
  [.add (namedEntity "a" []), .add (namedEntity "b" []),
    .modify (namedEntity "old" []) (namedEntity "old" [])]

/-- The run when some changes have begun. -/
def begunWith (changes : List Change) : Run Unit :=
  changes.foldl (fun run change => run.begin addingOnly LeftOut.nothing change) (.start ())

/-- The second addition failed while the call for the first one was on its way. -/
def crossed : Flight Unit where
  begun :=
    [⟨.add (namedEntity "a" []), .start (), some (.ok ⟨201, .object [("id", .string "7")]⟩)⟩,
      ⟨.add (namedEntity "b" []), begunWith (crossedBatch.take 1),
        some (.error (.request "/elements" "reset"))⟩,
      ⟨.modify (namedEntity "old" []) (namedEntity "old" []), begunWith (crossedBatch.take 2),
        none⟩]
  pending := []
  run := begunWith crossedBatch

theorem reached_crossed :
    Flight.Reached addingOnly LeftOut.nothing 2 crossedBatch (.start ()) crossed := by
  have hstart : Flight.Reached addingOnly LeftOut.nothing 2 crossedBatch (.start ())
      (.start crossedBatch (.start ())) := .refl
  have hboth := (hstart.step (.begin rfl (by decide))).step (.begin rfl (by decide))
  -- the second call is over first, but makes room only with the first one
  have hsecond := hboth.step (.reply (show _ = [_] ++ _ :: [] from rfl) (by decide)
    (.error (.request "/elements" "reset")))
  have hfirst := hsecond.step (.reply (show _ = [] ++ _ :: [_] from rfl) (by decide)
    (.ok ⟨201, .object [("id", .string "7")]⟩))
  exact hfirst.step (.begin rfl (by decide))

theorem isOver_crossed : crossed.IsOver addingOnly LeftOut.nothing :=
  ⟨rfl, by decide⟩

end Rollout.Batch
