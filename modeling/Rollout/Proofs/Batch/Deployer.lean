import Rollout.Batch.Overlap

/-!
# What deployers do to changes

A deployer settles changes: a failure leaves the change as it was, and a success only merges
the response into the entity of an addition. The standard deployer does so, whatever else goes
on beside it. It sends the request of a change once, and nothing if there is none.
-/

namespace Rollout

theorem Entity.merged_eq (entity : Entity) (answer : Json) :
    entity.merged answer = { entity with value := (entity.merged answer).value } := by
  rw [merged]
  repeat' split
  all_goals rfl

@[simp] theorem Entity.merged_elemId (entity : Entity) (answer : Json) :
    (entity.merged answer).elemId = entity.elemId := by
  rw [merged_eq]

/-- The responses of the service depend on the requests alone. -/
def Service.Stateless {σ : Type} (service : Service σ) : Prop :=
  ∀ state state' request, (service.answer state request).1.outcome =
    (service.answer state' request).1.outcome

namespace Batch

variable {σ : Type}

/-- Deploys changes while other things go on: after each change the service may come into
another state, and an interruption may be asked for. -/
def amid (meanwhile : Change → Run σ → σ × Bool) (deploy : Deployer σ) : Deployer σ :=
  fun change run =>
    let (outcome, after) := deploy change run
    let (state, raised) := meanwhile change after
    (outcome, { after with service := state, interrupted := after.interrupted || raised })

/-- What became of a change: it is as it was, or its response is merged in. -/
def Outcome.Settles (outcome : Outcome) (change : Change) : Prop :=
  outcome.change = match outcome.result with
    | .ok answer => settled change answer
    | .error _ => change

def Settling (deploy : Deployer σ) : Prop :=
  ∀ change run, (deploy change run).1.Settles change

/-! ## The two courses of a deployment -/

theorem concluded_settles (change : Change) (request : Request)
    (reply : Except ClientError Response) :
    (concluded change request reply).Settles change := by
  cases reply with
  | error e => rfl
  | ok response =>
    rw [concluded]
    split <;> rfl

/-- The run in which the warnings about the request of a change were issued. -/
def Run.warned (run : Run σ) (change : Change) (endpoints : Endpoints) (leftOut : LeftOut) :
    Run σ :=
  { run with
    notices := run.notices ++ (change.request endpoints leftOut).warnings.map .ambiguous }

section DeployChange

variable (service : Service σ) {endpoints : Endpoints} {leftOut : LeftOut} {change : Change}
  (run : Run σ)

/-- A change without a request is left alone, and nothing is sent for it. -/
theorem deployChange_of_error {e : BuildError}
    (h : (change.request endpoints leftOut).outcome = .error e) :
    deployChange service endpoints leftOut change run =
      (⟨change, .error (.build e)⟩, run.warned change endpoints leftOut) := by
  rw [deployChange]
  simp only [h, Run.warned]

/-- The request of a change is sent once, and the reply decides. -/
theorem deployChange_of_ok {request : Request}
    (h : (change.request endpoints leftOut).outcome = .ok request) :
    deployChange service endpoints leftOut change run =
      (concluded change request (service.answer run.service request).1.outcome,
        ((run.warned change endpoints leftOut).send service request).2) := by
  rw [deployChange]
  simp only [h, Run.send, Run.warned]
  cases (service.answer run.service request).1.outcome with
  | error e => rfl
  | ok response =>
    dsimp only [concluded]
    split <;> rfl

end DeployChange

theorem standardDeployer_settling (service : Service σ) (config : DeployConfig)
    (leftOut : LeftOut) : Settling (standardDeployer service config leftOut) := by
  intro change run
  rw [standardDeployer]
  cases h : (change.request (config.endpointsFor change.data.typeName) leftOut).outcome with
  | error e => rw [deployChange_of_error service run h, Outcome.Settles]
  | ok request =>
    rw [deployChange_of_ok service run h]
    exact concluded_settles change request _

variable {deploy : Deployer σ}

theorem Settling.amid (h : Settling deploy) (meanwhile : Change → Run σ → σ × Bool) :
    Settling (amid meanwhile deploy) :=
  fun change run => h change run

theorem attempt_of_interrupted (deploy : Deployer σ) (change : Change) {run : Run σ}
    (h : run.interrupted = true) :
    attempt true deploy change run = (⟨change, .error .interrupted⟩, run) :=
  if_pos h

theorem attempt_of_not_interrupted (heeds : Bool) (deploy : Deployer σ) (change : Change)
    {run : Run σ} (h : run.interrupted = false) :
    attempt heeds deploy change run = deploy change run := by
  rw [attempt, h, Bool.and_false, if_neg Bool.false_ne_true]

theorem Settling.attempt (h : Settling deploy) (heeds : Bool) :
    Settling (attempt heeds deploy) := by
  intro change run
  rw [Batch.attempt]
  split
  · rfl
  · exact h change run

/-! ## Runs that differ in what is told of them -/

/-- The runs are the same but for their notices. -/
structure Run.Alike (run run' : Run σ) : Prop where
  service : run.service = run'.service
  interrupted : run.interrupted = run'.interrupted
  calls : run.calls = run'.calls

namespace Run.Alike

variable {run run' run'' : Run σ}

theorem refl (run : Run σ) : run.Alike run := ⟨rfl, rfl, rfl⟩

theorem symm (h : run.Alike run') : run'.Alike run :=
  ⟨h.service.symm, h.interrupted.symm, h.calls.symm⟩

theorem trans (h : run.Alike run') (h' : run'.Alike run'') : run.Alike run'' :=
  ⟨h.service.trans h'.service, h.interrupted.trans h'.interrupted, h.calls.trans h'.calls⟩

theorem record (run : Run σ) (outcome : Outcome) : (run.record outcome).Alike run := by
  rw [Run.record]
  cases outcome.result <;> exact ⟨rfl, rfl, rfl⟩

theorem foldl_record (run : Run σ) (outcomes : List Outcome) :
    (outcomes.foldl Run.record run).Alike run := by
  induction outcomes generalizing run with
  | nil => exact refl run
  | cons outcome outcomes ih => exact (ih (run.record outcome)).trans (record run outcome)

end Run.Alike

/-! ## Requests and answers -/

/-- The request of a change to the endpoints of its type, if one can be made. -/
def requestOf? (config : DeployConfig) (leftOut : LeftOut) (change : Change) : Option Request :=
  (change.request (config.endpointsFor change.data.typeName) leftOut).outcome.toOption

theorem requestOf?_eq_some {config : DeployConfig} {leftOut : LeftOut} {change : Change}
    {request : Request} : requestOf? config leftOut change = some request ↔
      (change.request (config.endpointsFor change.data.typeName) leftOut).outcome =
        .ok request := by
  rw [requestOf?]
  cases (change.request (config.endpointsFor change.data.typeName) leftOut).outcome <;>
    simp [Except.toOption]

/-- The standard deployer calls the service once if the change has a request, and otherwise
not at all. -/
theorem calls_standardDeployer (service : Service σ) (config : DeployConfig) (leftOut : LeftOut)
    (change : Change) (run : Run σ) :
    (standardDeployer service config leftOut change run).2.calls =
      run.calls ++ (requestOf? config leftOut change).toList := by
  rw [standardDeployer, requestOf?]
  cases h : (change.request (config.endpointsFor change.data.typeName) leftOut).outcome with
  | error e => simp [deployChange_of_error service run h, Run.warned, Except.toOption]
  | ok request => simp [deployChange_of_ok service run h, Run.send, Run.warned, Except.toOption]

/-- A service without state makes the same of a change in every run. -/
theorem standardDeployer_congr {service : Service σ} (hservice : service.Stateless)
    (config : DeployConfig) (leftOut : LeftOut) (change : Change) (run run' : Run σ) :
    (standardDeployer service config leftOut change run).1 =
      (standardDeployer service config leftOut change run').1 := by
  rw [standardDeployer, standardDeployer]
  cases h : (change.request (config.endpointsFor change.data.typeName) leftOut).outcome with
  | error e => rw [deployChange_of_error service run h, deployChange_of_error service run' h]
  | ok request =>
    rw [deployChange_of_ok service run h, deployChange_of_ok service run' h,
      hservice run.service run'.service]

/-! ## Small services -/

/-- A service that accepts every request and gives all elements the same number. -/
def accepting : Service Unit where
  answer _ _ := (⟨.ok ⟨201, .object [("id", .string "7")]⟩, false⟩, ())

/-- A service that accepts every request and asks for an interruption in every call. -/
def stopping : Service Unit where
  answer _ _ := (⟨.ok ⟨201, .object [("id", .string "7")]⟩, true⟩, ())

def addingOnly : DeployConfig where
  types := Table.empty.insert "T" ⟨⟨some
    { url := ⟨[.literal "/elements"]⟩
      method := .post
      urlParams := .empty
      omitBody := false
      ignored := []
      query := none
      wrapper := none }, none, none⟩⟩

end Batch

end Rollout
