import Rollout.Text.Index
import Rollout.Text.Quoted

/-!
# Field paths

A field path is written as names joined by points, such as `obj.id`. It starts at the value
of an entity, or, after `_parent` and an index, at the value of one of its ancestors.
-/

namespace Rollout

inductive PathRoot where
  | value
  | ancestor (index : Nat)
deriving DecidableEq

/-- A start and the steps from there. -/
structure FieldPath where
  root : PathRoot
  segments : List String
deriving DecidableEq

inductive PathError where
  | empty
  | emptySegment (text : String)
  | missingParentIndex (text : String)
deriving DecidableEq

def PathError.message : PathError → String
  | .empty => "field path is empty"
  | .emptySegment text => "field path " ++ Text.quote text ++ " contains an empty segment"
  | .missingParentIndex text =>
    "field path " ++ Text.quote text ++
      " must continue with a numeric ancestor index after `_parent`"

namespace FieldPath

/-- The segment that leads to an ancestor. -/
def parentSegment : String := "_parent"

/-- The pieces of a text between its points: one more than it has points. -/
def splitPoints : List Char → List (List Char)
  | [] => [[]]
  | c :: rest =>
    if c = '.' then [] :: splitPoints rest
    else match splitPoints rest with
      | [] => [[c]]
      | piece :: pieces => (c :: piece) :: pieces

def ofText (text : String) : Except PathError FieldPath :=
  let segments := (splitPoints text.toList).map String.ofList
  if text = "" then .error .empty
  else if segments.contains "" then .error (.emptySegment text)
  else match segments with
    | first :: rest =>
      if first = parentSegment then
        match rest with
        | written :: steps =>
          match Text.index? written with
          | some index => .ok ⟨.ancestor index, steps⟩
          | none => .error (.missingParentIndex text)
        | [] => .error (.missingParentIndex text)
      else .ok ⟨.value, first :: rest⟩
    | [] => .error .empty

/-- The path to a field of the entity itself. -/
def field (name : String) : FieldPath := ⟨.value, [name]⟩

/-- The field of the entity that a path starts with. -/
def topLevelField? (path : FieldPath) : Option String :=
  match path.root with
  | .value => path.segments.head?
  | .ancestor _ => none

def text (path : FieldPath) : String :=
  let start := match path.root with
    | .value => []
    | .ancestor index => [parentSegment, toString index]
  ".".intercalate (start ++ path.segments)

end FieldPath

end Rollout
