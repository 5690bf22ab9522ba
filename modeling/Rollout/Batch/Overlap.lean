import Mathlib.Logic.Relation
import Rollout.Batch.Deploy

/-!
# Calls that overlap

A batch that is deployed at once need not wait for its calls. Its changes begin in the order
given, each when there is room for it; the reply to a call may come at any later time, before or
after the replies to others. Room is made in the order given as well: a change that is over keeps
its place until all before it are over.
-/

namespace Rollout.Batch

variable {σ : Type}

/-- What becomes of a change when the call for it is over. -/
def concluded (change : Change) (request : Request) : Except ClientError Response → Outcome
  | .error e => ⟨change, .error (.transport e)⟩
  | .ok response =>
    if isSuccessStatus response.status then ⟨settled change response.data, .ok response.data⟩
    else ⟨change, .error (.unsuccessful request.method request.url response.status
      response.data)⟩

/-- A change that has begun, the run at that moment, and the reply to the call for it, if there
was one by now. -/
structure Begun (σ : Type) where
  change : Change
  run : Run σ
  reply? : Option (Except ClientError Response)

/-- A batch on its way: the changes that have begun and those that are left, in order. -/
structure Flight (σ : Type) where
  begun : List (Begun σ)
  pending : List Change
  run : Run σ

section

variable (config : DeployConfig) (leftOut : LeftOut)

/-- What became of a change that has begun, unless the call for it waits for the reply. -/
def Begun.outcome? (begun : Begun σ) : Option Outcome :=
  if begun.run.interrupted then some ⟨begun.change, .error .interrupted⟩
  else
    let endpoints := config.endpointsFor begun.change.data.typeName
    match (begun.change.request endpoints leftOut).outcome with
    | .error e => some ⟨begun.change, .error (.build e)⟩
    | .ok request => begun.reply?.map (concluded begun.change request)

def Begun.isOver (begun : Begun σ) : Bool := (begun.outcome? config leftOut).isSome

/-- The run when a change has begun: its request was sent, unless it has none or an interruption
was asked for. -/
def Run.begin (change : Change) (run : Run σ) : Run σ :=
  if run.interrupted then run
  else
    let built := change.request (config.endpointsFor change.data.typeName) leftOut
    { run with
      calls := run.calls ++ built.outcome.toOption.toList
      notices := run.notices ++ built.warnings.map .ambiguous }

namespace Flight

def start (changes : List Change) (run : Run σ) : Flight σ := ⟨[], changes, run⟩

/-- The changes that take up room: the first one that is not over, and those begun after it. -/
def held (flight : Flight σ) : List (Begun σ) := flight.begun.dropWhile (Begun.isOver config leftOut)

/-- What may happen next to a batch, up to `limit` and at least one change at a time. -/
inductive Step (limit : Nat) : Flight σ → Flight σ → Prop where
  /-- The first change that is left begins. -/
  | begin {flight : Flight σ} {change : Change} {pending : List Change}
      (next : flight.pending = change :: pending)
      (room : (flight.held config leftOut).length < max limit 1) :
      Step limit flight
        { begun := flight.begun ++ [⟨change, flight.run, none⟩]
          pending
          run := flight.run.begin config leftOut change }
  /-- The reply to some call comes. -/
  | reply {flight : Flight σ} {earlier later : List (Begun σ)} {begun : Begun σ}
      (place : flight.begun = earlier ++ begun :: later)
      (waits : begun.isOver config leftOut = false) (reply : Except ClientError Response) :
      Step limit flight
        { flight with begun := earlier ++ { begun with reply? := some reply } :: later }
  /-- The service comes into another state, or an interruption is asked for. -/
  | elsewhere (flight : Flight σ) (state : σ) (raised : Bool) :
      Step limit flight
        { flight with
          run := { flight.run with
            service := state
            interrupted := flight.run.interrupted || raised } }

/-- A batch can come to this point. -/
def Reached (limit : Nat) (changes : List Change) (run : Run σ) (flight : Flight σ) : Prop :=
  Relation.ReflTransGen (Step config leftOut limit) (start changes run) flight

/-- All changes have begun, and all are over. -/
structure IsOver (flight : Flight σ) : Prop where
  pending : flight.pending = []
  begun : ∀ begun ∈ flight.begun, begun.isOver config leftOut = true

/-- What a batch that is over has come to. Failures are told of when all is done. -/
def result (flight : Flight σ) : Result × Run σ :=
  let outcomes := flight.begun.filterMap (Begun.outcome? config leftOut)
  (.ofOutcomes outcomes, outcomes.foldl Run.record flight.run)

end Flight

end

end Rollout.Batch
