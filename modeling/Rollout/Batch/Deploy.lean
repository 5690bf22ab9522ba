import Rollout.Batch.Error
import Rollout.Batch.Merge
import Rollout.Batch.Order
import Rollout.Request.Service

/-!
# Deploying changes

A change is deployed by one request; the answer to an addition is merged into the new
entity. A batch is deployed in the order of its dependencies, each change with the latest
values of the ancestors deployed before it, or all at once in the order given. Here each call
completes before anything else happens; calls that overlap are in `Rollout.Batch.Overlap`.

An interruption may be asked for during a call: the change that the call is for is completed,
and a batch that heeds interruptions sends nothing after it.
-/

namespace Rollout.Batch

/-- What is told of a run besides its result. -/
inductive Notice where
  | ambiguous (warning : AmbiguousParam)
  | failed (elemId : ElemId) (error : DeployError)

def Notice.message : Notice → String
  | .ambiguous warning => warning.message
  | .failed elemId error => "failed to deploy " ++ elemId.fullName ++ ": " ++ error.message

/-- The state of a run: that of the service, whether an interruption was asked for, and the
calls and notices so far. -/
structure Run (σ : Type) where
  service : σ
  interrupted : Bool
  calls : List Request
  notices : List Notice

def Run.start {σ : Type} (service : σ) : Run σ := ⟨service, false, [], []⟩

/-- What became of a change: the change afterwards, and the response or why there is none. -/
structure Outcome where
  change : Change
  result : Except DeployError Json

namespace Outcome

/-- The entity that now stands at the service, if the change put it there. -/
def deployed? (outcome : Outcome) : Option Entity :=
  match outcome.result with
  | .ok _ => outcome.change.after?
  | .error _ => none

end Outcome

abbrev Deployer (σ : Type) := Change → Run σ → Outcome × Run σ

variable {σ : Type}

/-- The change after a successful call. -/
def settled (change : Change) (answer : Json) : Change :=
  match change with
  | .add after => .add (after.merged answer)
  | other => other

def Run.send (run : Run σ) (service : Service σ) (request : Request) :
    Except ClientError Response × Run σ :=
  let (reply, state) := service.answer run.service request
  (reply.outcome,
    { run with
      service := state
      interrupted := run.interrupted || reply.interrupts
      calls := run.calls ++ [request] })

/-- Deploys a change to the endpoints of its type. Nothing is sent if its request cannot be
made, and only a successful call changes it. -/
def deployChange (service : Service σ) (endpoints : Endpoints) (leftOut : LeftOut) :
    Deployer σ := fun change run =>
  let built := change.request endpoints leftOut
  let run := { run with notices := run.notices ++ built.warnings.map .ambiguous }
  match built.outcome with
  | .error e => (⟨change, .error (.build e)⟩, run)
  | .ok request =>
    let (outcome, run) := run.send service request
    match outcome with
    | .error e => (⟨change, .error (.transport e)⟩, run)
    | .ok response =>
      if isSuccessStatus response.status then
        (⟨settled change response.data, .ok response.data⟩, run)
      else
        (⟨change, .error (.unsuccessful request.method request.url response.status
          response.data)⟩, run)

def standardDeployer (service : Service σ) (config : DeployConfig) (leftOut : LeftOut) :
    Deployer σ := fun change run =>
  deployChange service (config.endpointsFor change.data.typeName) leftOut change run

def Run.record (run : Run σ) (outcome : Outcome) : Run σ :=
  match outcome.result with
  | .ok _ => run
  | .error e => { run with notices := run.notices ++ [.failed outcome.change.elemId e] }

/-- Deploys a change, unless an interruption was asked for and is heeded. -/
def attempt (heeds : Bool) (deploy : Deployer σ) : Deployer σ := fun change run =>
  if heeds && run.interrupted then (⟨change, .error .interrupted⟩, run) else deploy change run

/-! ## One after the other -/

/-- Deploys pending changes in their order. `deployed` are the entities deployed before, in
order; a change takes its snapshots from them when its turn comes. -/
def deployPending (heeds : Bool) (deploy : Deployer σ) (deployed : List Entity) :
    List Change → Run σ → List Outcome × Run σ
  | [], run => ([], run)
  | change :: pending, run =>
    let (outcome, run) := attempt heeds deploy (change.refreshed deployed) run
    let deployed := deployed ++ outcome.deployed?.toList
    let (outcomes, run) := deployPending heeds deploy deployed pending (run.record outcome)
    (outcome :: outcomes, run)

/-! ## At once -/

/-- Cuts a list into pieces of one item and up to `extra` more. -/
def windows {α : Type} (extra : Nat) : List α → List (List α)
  | [] => []
  | x :: xs => (x :: xs.take extra) :: windows extra (xs.drop extra)
termination_by xs => xs.length

theorem flatten_windows {α : Type} (extra : Nat) (xs : List α) :
    (windows extra xs).flatten = xs := by
  induction xs using (windows.induct extra) with
  | case1 => simp [windows]
  | case2 x xs ih => simp [windows, ih]

/-- Attempts some changes as they are. Their calls complete at once, so they happen in
order. -/
def deployWindow (deploy : Deployer σ) : List Change → Run σ → List Outcome × Run σ
  | [], run => ([], run)
  | change :: rest, run =>
    let (outcome, run) := attempt true deploy change run
    let (outcomes, run) := deployWindow deploy rest run
    (outcome :: outcomes, run)

def deployWindows (deploy : Deployer σ) : List (List Change) → Run σ → List Outcome × Run σ
  | [], run => ([], run)
  | window :: rest, run =>
    let (outcomes, run) := deployWindow deploy window run
    let (more, run) := deployWindows deploy rest run
    (outcomes ++ more, run)

/-! ## Results -/

/-- The outcome of a batch. Every change is in one of the lists. -/
structure Result where
  applied : List Change
  errors : List ChangeError

namespace Result

def ofOutcomes (outcomes : List Outcome) : Result where
  applied := outcomes.filterMap fun outcome =>
    match outcome.result with
    | .ok _ => some outcome.change
    | .error _ => none
  errors := outcomes.filterMap fun outcome =>
    match outcome.result with
    | .ok _ => none
    | .error e => some (.of outcome.change.elemId e)

def isSuccess (result : Result) : Bool := result.errors.isEmpty

def toJson (result : Result) : Json :=
  .object [("appliedChanges", .array (result.applied.map Change.toJson)),
    ("errors", .array (result.errors.map ChangeError.toJson))]

end Result

/-- Deploys a batch in the order of its dependencies; interruptions are not heeded. -/
def deployChanges (deploy : Deployer σ) (changes : List Change) (run : Run σ) :
    Result × Run σ :=
  let (outcomes, run) := deployPending false deploy [] (ordered changes) run
  (.ofOutcomes outcomes, run)

/-- Deploys a batch in the order of its dependencies until an interruption is asked for. The
changes after that are not sent, and reported as interrupted. -/
def deployUntil (deploy : Deployer σ) (changes : List Change) (run : Run σ) :
    Result × Run σ :=
  let (outcomes, run) := deployPending true deploy [] (ordered changes) run
  (.ofOutcomes outcomes, run)

/-- Deploys independent changes in the order given, up to `limit` and at least one at a
time, until an interruption is asked for. Failures are told of when all is done. -/
def deployConcurrently (deploy : Deployer σ) (limit : Nat) (changes : List Change)
    (run : Run σ) : Result × Run σ :=
  let (outcomes, run) := deployWindows deploy (windows (limit - 1) changes) run
  (.ofOutcomes outcomes, outcomes.foldl Run.record run)

end Rollout.Batch
