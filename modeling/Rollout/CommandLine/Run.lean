import Rollout.Batch.Deploy
import Rollout.Batch.Plan
import Rollout.CommandLine.Arguments
import Rollout.Http.Client
import Rollout.Reading.Element
import Rollout.Reading.Endpoint

/-!
# Running commands

What a command prints and how it ends, as a function of the arguments, the files it may read
and the network.
-/

namespace Rollout.CommandLine

/-- Why a command ends without success. -/
inductive CommandError where
  | loadConfig (path : String)
  | readChanges (path : String)
  | parseChanges (path : String)
  | headerName (name : String)
  | headerValue (name : String)
  | failed (errors all : Nat)
deriving DecidableEq

def CommandError.message : CommandError → String
  | .loadConfig path => "while loading deploy configuration " ++ path
  | .readChanges path => "while reading changes from " ++ path
  | .parseChanges path => "while parsing changes from " ++ path
  | .headerName name => "invalid header name " ++ Text.quote name
  | .headerValue name => "invalid value for header " ++ name
  | .failed errors all => toString errors ++ " of " ++ toString all ++ " changes failed"

/-- How a command ends: what it prints, and the error if it has one. -/
structure Report where
  exit : Nat
  output : String
  error : Option CommandError

namespace Report

def success (output : String) : Report := ⟨0, output, none⟩

def failure (error : CommandError) : Report := ⟨1, "", some error⟩

def usage : Report := ⟨2, "", none⟩

end Report

/-- The contents of files by their paths. -/
abbrev Files := String → Option String

def Command.paths : Command → List String
  | .deploy options => [options.config, options.changes]
  | .plan config changes => [config, changes]
  | .checkConfig config => [config]
  | .version => []

def loadConfig (files : Files) (path : String) : Except CommandError DeployConfig :=
  match (files path).map (Read.text DeployConfig.read) with
  | some (.ok (config, _)) => .ok config
  | _ => .error (.loadConfig path)

def loadChanges (files : Files) (path : String) : Except CommandError (List Change) :=
  match (files path).map (Read.text readChanges) with
  | some (.ok changes) => .ok changes
  | some (.error _) => .error (.parseChanges path)
  | none => .error (.readChanges path)

/-- The headers of some names and values. -/
def headersOf : List (String × String) → Except CommandError (List Header)
  | [] => .ok []
  | (written, value) :: rest =>
    match Header.name? written with
    | none => .error (.headerName written)
    | some name =>
      if Header.isValue value then (headersOf rest).map fun headers => ⟨name, value⟩ :: headers
      else .error (.headerValue name)

private def line (text : String) : String := text ++ "\n"

/-- Lists the actions of every configured type, a type a line. -/
def configLines (config : DeployConfig) : String :=
  String.join <| config.types.entries.map fun (typeName, type) =>
    let actions := Action.all.filter fun action => (type.endpoints.forAction action).isSome
    line (typeName ++ ": " ++ ", ".intercalate (actions.map Action.text))

private def runCheckConfig (files : Files) (path : String) : Report :=
  match loadConfig files path with
  | .ok config => .success (configLines config)
  | .error e => .failure e

private def runPlan (files : Files) (configPath changesPath : String) : Report :=
  let planned : Except CommandError Json := do
    let config ← loadConfig files configPath
    let changes ← loadChanges files changesPath
    return .array ((Batch.plan config changes).map Batch.PlannedChange.toJson)
  match planned with
  | .ok json => .success (line json.pretty)
  | .error e => .failure e

/-- How a deployment ends that had a result. -/
def deployReport (result : Batch.Result) : Report :=
  let output := line result.toJson.pretty
  let errors := result.errors.length
  if result.isSuccess then .success output
  else ⟨1, output, some (.failed errors (errors + result.applied.length))⟩

variable {ν : Type}

private def runDeploy (files : Files) (network : Http.Network ν) (state : ν)
    (options : DeployOptions) : Report × ν :=
  let prepared : Except CommandError (DeployConfig × List Change × List Header) := do
    let config ← loadConfig files options.config
    let changes ← loadChanges files options.changes
    let headers ← headersOf options.headers
    return (config, changes, headers)
  match prepared with
  | .error e => (.failure e, state)
  | .ok (config, changes, headers) =>
    let service := (Http.Client.ofBase options.baseUrl headers).service network
    let deployer := Batch.standardDeployer service config LeftOut.nothing
    let (result, run) := match options.concurrency with
      | some limit => Batch.deployConcurrently deployer limit changes (.start state)
      | none => Batch.deployUntil deployer changes (.start state)
    (deployReport result, run.service)

def Command.run (command : Command) (files : Files) (network : Http.Network ν) (state : ν) :
    Report × ν :=
  match command with
  | .deploy options => runDeploy files network state options
  | .plan config changes => (runPlan files config changes, state)
  | .checkConfig config => (runCheckConfig files config, state)
  | .version => (.success (line "apideploy 0.1.0"), state)

def run (arguments : List String) (files : Files) (network : Http.Network ν) (state : ν) :
    Report × ν :=
  match Command.ofArguments arguments with
  | some command => command.run files network state
  | none => (.usage, state)

end Rollout.CommandLine
