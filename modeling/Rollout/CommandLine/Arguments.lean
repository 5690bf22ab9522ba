import Rollout.Text.Index

/-!
# Command line arguments

The commands and their options. An option is given by its name and the values after it, or,
if it has one value, also as `--name=value`. What starts with a hyphen is never the value of
an option, a lone hyphen aside. An option is given at most once, unless it may be repeated.
Options of one letter may share a hyphen. Two hyphens may stand at the end. Nothing counts
that comes after the option that asks for the version.
-/

namespace Rollout.CommandLine

/-- What `deploy` is asked for. -/
structure DeployOptions where
  config : String
  changes : String
  baseUrl : String
  headers : List (String × String)
  /-- How many changes may be sent at once, if they are not to be ordered. -/
  concurrency : Option Nat
deriving DecidableEq

inductive Command where
  | deploy (options : DeployOptions)
  | plan (config changes : String)
  | checkConfig (config : String)
  | version
deriving DecidableEq

/-- An option that was given: its name and its values. -/
structure Given where
  name : String
  values : List String
deriving DecidableEq

/-- An option that a command knows: its name, how many values it has, and whether it may be
repeated. -/
structure Known where
  name : String
  arity : Nat
  repeats : Bool

def versionOption : String := "version"

def globalOptions : List Known := [⟨"verbose", 0, false⟩, ⟨"color", 1, false⟩]

private def isFlag (argument : String) : Bool :=
  argument.toList.head? = some '-' && argument ≠ "-"

/-- Options of one letter, each with a hyphen of its own. -/
private def separateLetters (argument : String) : List String :=
  match argument.toList with
  | '-' :: letters =>
    if letters = [] ∨ letters.contains '-' then [argument]
    else letters.map fun c => String.ofList ['-', c]
  | _ => [argument]

/-- The name of an option of one letter. -/
private def letterName? (argument : String) : Option String :=
  match argument with
  | "-v" => some "verbose"
  | "-V" => some versionOption
  | _ => none

/-- The name of an option and the value that is attached to it, if any. -/
private def splitLong (argument : String) : String × Option String :=
  let body := argument.toList.drop 2
  let value := body.dropWhile (· ≠ '=')
  (String.ofList (body.takeWhile (· ≠ '=')),
    if value = [] then none else some (String.ofList (value.drop 1)))

/-- Takes some values from the front of the arguments. -/
private def takeValues : Nat → List String → Option (List String × List String)
  | 0, rest => some ([], rest)
  | _ + 1, [] => none
  | n + 1, argument :: rest =>
    if isFlag argument then none
    else (takeValues n rest).map fun found => (argument :: found.1, found.2)

/-- Takes an option from the front of the arguments, which start with a flag. -/
private def takeOption (known : List Known) (argument : String) (rest : List String) :
    Option (Given × List String) := do
  let (name, attached) := match letterName? argument with
    | some name => (name, none)
    | none => splitLong argument
  if (letterName? argument).isNone ∧ !(['-', '-'].isPrefixOf argument.toList) then none
  let option ← known.find? fun option => option.name = name
  match attached with
  | some value => if option.arity = 1 then some (⟨name, [value]⟩, rest) else none
  | none => do
    let (values, rest) ← takeValues option.arity rest
    return (⟨name, values⟩, rest)

private def admits (option : Known) (given : List Given) : Bool :=
  option.repeats || (given.filter fun g => g.name = option.name).length ≤ 1

/-- The options at the front of the arguments, and the arguments from the first that is none.
Every option takes an argument, so there are no more options than arguments. -/
private def takeOptions (known : List Known) :
    Nat → List String → Option (List Given × List String)
  | 0, rest => some ([], rest)
  | _ + 1, [] => some ([], [])
  | fuel + 1, argument :: rest =>
    if argument = "--" then if rest.isEmpty then some ([], []) else none
    else if isFlag argument then do
      let (given, rest) ← takeOption known argument rest
      if given.name = versionOption then return ([given], [])
      let (more, rest) ← takeOptions known fuel rest
      return (given :: more, rest)
    else some ([], argument :: rest)

/-- The options at the front of the arguments, none repeated that may not be. -/
private def optionsOf (known : List Known) (arguments : List String) :
    Option (List Given × List String) := do
  let (given, rest) ← takeOptions known arguments.length arguments
  let colors := given.filter fun g => g.name = "color"
  if !known.all (admits · given) then none
  if colors.any fun g => !(["auto", "always", "never"].contains (g.values.headD "")) then none
  return (given, rest)

private def allOptions (known : List Known) (arguments : List String) :
    Option (List Given) := do
  let (given, rest) ← optionsOf (globalOptions ++ known) arguments
  if rest.isEmpty then some given else none

private def value? (given : List Given) (name : String) : Option String := do
  let option ← given.find? fun g => g.name = name
  option.values.head?

/-- The value of an option that names a file. -/
private def path? (given : List Given) (name : String) : Option String := do
  let path ← value? given name
  if path = "" then none else some path

private def pairs (given : List Given) (name : String) : List (String × String) :=
  given.filterMap fun g =>
    match g.values with
    | [a, b] => if g.name = name then some (a, b) else none
    | _ => none

private def deploy? (arguments : List String) : Option Command := do
  let given ← allOptions
    [⟨"config", 1, false⟩, ⟨"changes", 1, false⟩, ⟨"base-url", 1, false⟩, ⟨"header", 2, true⟩,
      ⟨"concurrency", 1, false⟩] arguments
  let config ← path? given "config"
  let changes ← path? given "changes"
  let baseUrl ← value? given "base-url"
  let concurrency ← match value? given "concurrency" with
    | some written => (Text.index? written).map some
    | none => some none
  return .deploy ⟨config, changes, baseUrl, pairs given "header", concurrency⟩

private def plan? (arguments : List String) : Option Command := do
  let given ← allOptions [⟨"config", 1, false⟩, ⟨"changes", 1, false⟩] arguments
  return .plan (← path? given "config") (← path? given "changes")

private def checkConfig? (arguments : List String) : Option Command := do
  let given ← allOptions [⟨"config", 1, false⟩] arguments
  return .checkConfig (← path? given "config")

/-- The command that some arguments give, if they are used properly. -/
def Command.ofArguments (arguments : List String) : Option Command := do
  let known := globalOptions ++ [⟨versionOption, 0, false⟩]
  let (given, rest) ← optionsOf known (arguments.flatMap separateLetters)
  if given.any fun g => g.name = versionOption then some .version
  else match rest with
    | "deploy" :: rest => deploy? rest
    | "plan" :: rest => plan? rest
    | "check-config" :: rest => checkConfig? rest
    | _ => none

end Rollout.CommandLine
