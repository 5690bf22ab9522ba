import Rollout.Endpoint.Definition
import Rollout.Path.Resolve
import Rollout.Text.Percent

/-!
# Filling in URL templates

A placeholder takes its value from the path that its name is mapped to or, if it is not
mapped, from the field of its name. The value has to be a string, a number or a truth value;
its text is percent encoded. Where a mapped path and a field of the same name disagree, the
path wins and a warning is issued.
-/

namespace Rollout

/-- Why no request is made of a change. -/
inductive BuildError where
  | missingEndpoint (action : Action) (typeName : String)
  | unmappedParam (param : String) (url : UrlTemplate) (elemId : ElemId)
  | unresolvedParam (param : String) (path : FieldPath) (elemId : ElemId)
  | nonScalarParam (param : String) (path : FieldPath) (elemId : ElemId)
deriving DecidableEq

namespace BuildError

def message : BuildError → String
  | .missingEndpoint action typeName =>
    "No endpoint of type " ++ action.text ++ " for " ++ typeName
  | .unmappedParam param url elemId =>
    "URL parameter " ++ param ++ " of " ++ url.text ++ " is not in urlParamsToFields and " ++
      elemId.fullName ++ " has no field named " ++ param
  | .unresolvedParam param path elemId =>
    "URL parameter " ++ param ++ " could not be resolved from field path " ++ path.text ++
      " of " ++ elemId.fullName
  | .nonScalarParam param path elemId =>
    "URL parameter " ++ param ++ " resolved from field path " ++ path.text ++ " of " ++
      elemId.fullName ++ " is not a scalar value"

/-- Whether the configuration is at fault, and not the data of the entity. -/
def isConfiguration : BuildError → Bool
  | .missingEndpoint _ _ => true
  | .unmappedParam _ _ _ => true
  | .unresolvedParam _ _ _ => false
  | .nonScalarParam _ _ _ => false

end BuildError

/-- A placeholder that is mapped to one value while the field of its name has another. -/
structure AmbiguousParam where
  param : String
  url : UrlTemplate
  path : FieldPath
  mapped : Json
  elemId : ElemId
  field : Json

def AmbiguousParam.message (w : AmbiguousParam) : String :=
  "URL parameter " ++ w.param ++ " of " ++ w.url.text ++ " is mapped to " ++ w.path.text ++
    " (" ++ w.mapped.text ++ ") but " ++ w.elemId.fullName ++ " also has a field " ++ w.param ++
    " (" ++ w.field.text ++ "); using the mapping"

/-- A result, and the warnings issued on the way to it. -/
structure Warned (ε α : Type) where
  outcome : Except ε α
  warnings : List AmbiguousParam

structure BuiltUrl where
  url : String
  /-- The fields of the entity that supplied a value, in ascending order. -/
  consumed : List String
deriving DecidableEq

namespace UrlTemplate

variable (template : UrlTemplate) (params : Table FieldPath) (entity : Entity)

/-- The path that a placeholder takes its value from: the mapped one, or the field of its
name if the entity has it. -/
def source? (name : String) : Option FieldPath :=
  match params.get? name with
  | some path => some path
  | none => (Fields.get? entity.value name).map fun _ => FieldPath.field name

/-- The warning about a placeholder whose name is mapped elsewhere than to its own field. -/
def ambiguity? (name : String) : Option AmbiguousParam := do
  let path ← params.get? name
  let mapped ← path.resolve? entity
  let field ← Fields.get? entity.value name
  if path.topLevelField? ≠ some name ∧ !mapped.same field then
    some ⟨name, template, path, mapped, entity.elemId, field⟩
  else none

/-- The text of a placeholder's value and the path that it came from. -/
def paramText (name : String) : Except BuildError (String × FieldPath) :=
  match source? params entity name with
  | none => .error (.unmappedParam name template entity.elemId)
  | some path =>
    match path.resolve? entity with
    | none => .error (.unresolvedParam name path entity.elemId)
    | some .null => .error (.unresolvedParam name path entity.elemId)
    | some value =>
      match value.scalarText? with
      | some text => .ok (text, path)
      | none => .error (.nonScalarParam name path entity.elemId)

/-- The text of some parts, with the paths that the values came from. -/
def fillParts : List TemplatePart → Warned BuildError (String × List FieldPath)
  | [] => ⟨.ok ("", []), []⟩
  | .literal text :: parts =>
    let rest := fillParts parts
    ⟨rest.outcome.map fun (url, paths) => (text ++ url, paths), rest.warnings⟩
  | .param name :: parts =>
    let warning := (ambiguity? template params entity name).toList
    match paramText template params entity name with
    | .error e => ⟨.error e, warning⟩
    | .ok (text, path) =>
      let rest := fillParts parts
      ⟨rest.outcome.map fun (url, paths) => (Text.percentEncode text ++ url, path :: paths),
        warning ++ rest.warnings⟩

/-- Names in ascending order, each once. -/
def ascendingNames (names : List String) : List String :=
  (Table.ofList (names.map fun name => (name, ()))).names

def fill : Warned BuildError BuiltUrl :=
  let filled := fillParts template params entity template.parts
  ⟨filled.outcome.map fun (url, paths) =>
      ⟨url, ascendingNames (paths.filterMap FieldPath.topLevelField?)⟩,
    filled.warnings⟩

end UrlTemplate

end Rollout
