import Rollout.Element.Change
import Rollout.Reading.Basic

/-!
# Reading entities and changes

A change is an object with its action among the members, or an array that starts with it.
The whole change is read before its entities are, so a fault of its text comes before what
is wrong with them.
-/

namespace Rollout

def ElemId.read (d : Document) : Read ElemId := Read.parsed ElemId.ofText .elemId d

namespace FieldRules

structure Draft where
  creatable : Option (Option Bool)
  updatable : Option (Option Bool)
  hidden : Option Bool

def shape : Read.Shape Draft FieldRules where
  expected := "struct FieldAnnotations"
  fields := ["creatable", "updatable", "hidden"]
  closed := false
  draft := ⟨none, none, none⟩
  take s name d :=
    match name with
    | "creatable" => do return { s with creatable := some (← Read.optional Read.bool d) }
    | "updatable" => do return { s with updatable := some (← Read.optional Read.bool d) }
    | "hidden" => do return { s with hidden := some (← Read.bool d) }
    | _ => .ok s
  finish s := .ok ⟨s.creatable.join, s.updatable.join, s.hidden.getD false⟩

def read (surplus : Read.Surplus) (d : Document) : Read FieldRules :=
  Read.record shape surplus d

end FieldRules

namespace ObjectType

def shape (surplus : Read.Surplus) : Read.Shape (Option (Table FieldRules)) ObjectType where
  expected := "struct ObjectType"
  fields := ["fields"]
  closed := false
  draft := none
  take s name d :=
    match name with
    | "fields" => do return some (← Read.table (FieldRules.read surplus) d)
    | _ => .ok s
  finish s := .ok ⟨s.getD Table.empty⟩

def read (surplus : Read.Surplus) (d : Document) : Read ObjectType :=
  Read.record (shape surplus) surplus d

end ObjectType

namespace Parent

structure Draft where
  elemId : Option ElemId
  value : Option Fields

def shape : Read.Shape Draft Parent where
  expected := "struct ParentRef"
  fields := ["elemId", "value"]
  closed := false
  draft := ⟨none, none⟩
  take s name d :=
    match name with
    | "elemId" => do return { s with elemId := some (← ElemId.read d) }
    | "value" => do return { s with value := some (← Read.fields d) }
    | _ => .ok s
  finish s :=
    match s.elemId with
    | some elemId => .ok ⟨elemId, s.value.getD []⟩
    | none => .error "elemId"

def read (surplus : Read.Surplus) (d : Document) : Read Parent := Read.record shape surplus d

end Parent

namespace Entity

structure Draft where
  elemId : Option ElemId
  objectType : Option ObjectType
  value : Option Fields
  parents : Option (List Parent)

def shape (surplus : Read.Surplus) : Read.Shape Draft Entity where
  expected := "struct Entity"
  fields := ["elemId", "type", "value", "parents"]
  closed := false
  draft := ⟨none, none, none, none⟩
  take s name d :=
    match name with
    | "elemId" => do return { s with elemId := some (← ElemId.read d) }
    | "type" => do return { s with objectType := some (← ObjectType.read surplus d) }
    | "value" => do return { s with value := some (← Read.fields d) }
    | "parents" => do return { s with parents := some (← Read.list (Parent.read surplus) d) }
    | _ => .ok s
  finish s :=
    match s.elemId with
    | some elemId =>
      .ok ⟨elemId, s.objectType.getD .plain, s.value.getD [], s.parents.getD []⟩
    | none => .error "elemId"

def read (surplus : Read.Surplus) (d : Document) : Read Entity :=
  Read.record (shape surplus) surplus d

end Entity

def Action.read (d : Document) : Read Action := Read.unitVariant Action.all Action.text d

namespace Change

/-- The member that holds the action. -/
def tag : String := "action"

structure Draft where
  before : Option Entity
  after : Option Entity

private def variantName : Action → String
  | .add => "Add"
  | .modify => "Modify"
  | .remove => "Remove"

/-- The entities that a change of an action has. -/
def entityFields : Action → List String
  | .add => ["after"]
  | .modify => ["before", "after"]
  | .remove => ["before"]

def shape (action : Action) : Read.Shape Draft Change where
  expected := "struct variant Change::" ++ variantName action
  fields := entityFields action
  closed := false
  draft := ⟨none, none⟩
  take s name d :=
    match name with
    | "before" => do return { s with before := some (← Entity.read .counted d) }
    | "after" => do return { s with after := some (← Entity.read .counted d) }
    | _ => .ok s
  finish s :=
    match between? action s.before s.after with
    | some change => .ok change
    | none => .error (if action ≠ .add ∧ s.before.isNone then "before" else "after")

def readTag (d : Document) : Read Action := Read.variant Action.all Action.text d

/-- Reads a document through and keeps it for later. -/
def keep (d : Document) : Read Document := do
  let _ ← Read.json d
  return d

/-- Takes in a member of a change: the action, or something to keep. -/
def takeTagged (s : Option Action × List (Document × Document)) (name : String)
    (d : Document) : Read (Option Action × List (Document × Document)) :=
  if name = tag then
    match s.1 with
    | some _ => Read.fail (.duplicateField tag)
    | none => do return (some (← readTag d), s.2)
  else do return (s.1, s.2 ++ [(.string name, ← keep d)])

def read : Document → Read Change
  | .object entries ending => do
    let (action?, kept) ← Read.eachMember takeTagged (none, []) entries
    Read.ofFault (Document.endOf ending)
    match action? with
    | some action => Read.record (shape action) .counted (.object kept none)
    | none => Read.fail (.missingField tag)
  | .array [] ending => do
    Read.ofFault (Document.endOf ending)
    Read.fail (.missingField tag)
  | .array (first :: rest) ending => do
    let action ← readTag first
    let _ ← Read.json (.array rest ending)
    Read.record (shape action) .counted (.array rest none)
  | d => Read.wrongType d "internally tagged enum Change"

end Change

def readChanges (d : Document) : Read (List Change) := Read.list Change.read d

end Rollout
