import Rollout.Element.Id
import Rollout.Json.Text
import Rollout.Table

/-!
# Entities

An entity is an element with its type, its value and snapshots of its ancestors. The type
tells of each field whether it may be sent and whether it is shown.
-/

namespace Rollout

/-- What a type says about a field. What is not said is allowed. -/
structure FieldRules where
  creatable : Option Bool
  updatable : Option Bool
  hidden : Bool
deriving DecidableEq

/-- The type of an entity: rules for some of its fields. -/
structure ObjectType where
  fields : Table FieldRules
deriving DecidableEq

/-- An ancestor of an entity and its value when the snapshot was taken. -/
structure Parent where
  elemId : ElemId
  value : Fields

/-- An element with its type, value and ancestors, the nearest first. -/
structure Entity where
  elemId : ElemId
  objectType : ObjectType
  value : Fields
  parents : List Parent

namespace FieldRules

/-- A field about which nothing is said. -/
def unsaid : FieldRules := ⟨none, none, false⟩

def toJson (rules : FieldRules) : Json :=
  .object <|
    (rules.creatable.map fun b => ("creatable", Json.bool b)).toList ++
    (rules.updatable.map fun b => ("updatable", Json.bool b)).toList ++
    (if rules.hidden then [("hidden", Json.bool true)] else [])

end FieldRules

namespace ObjectType

def plain : ObjectType := ⟨Table.empty⟩

def toJson (type : ObjectType) : Json :=
  .object [("fields", .object (type.fields.mapValues FieldRules.toJson).entries)]

end ObjectType

namespace Parent

def toJson (parent : Parent) : Json :=
  .object [("elemId", .string parent.elemId.fullName), ("value", .object parent.value)]

/-- Equality, the order of members aside. -/
def same (a b : Parent) : Bool :=
  a.elemId = b.elemId && (Json.object a.value).same (.object b.value)

/-- The snapshot with the value of an entity, if it is one of that. -/
def refresh (parent : Parent) (entity : Entity) : Parent :=
  if parent.elemId = entity.elemId then { parent with value := entity.value } else parent

end Parent

namespace Entity

def typeName (entity : Entity) : String := entity.elemId.typeName

/-- The entity with a snapshot of another one as its last ancestor. -/
def withParent (entity parent : Entity) : Entity :=
  { entity with parents := entity.parents ++ [⟨parent.elemId, parent.value⟩] }

/-- The entity with its snapshots refreshed from others, one after the other. -/
def refreshed (entity : Entity) (others : List Entity) : Entity :=
  { entity with parents := entity.parents.map fun parent => others.foldl Parent.refresh parent }

def rules? (entity : Entity) (field : String) : Option FieldRules :=
  entity.objectType.fields.get? field

/-- The fields that are not hidden. -/
def visibleValue (entity : Entity) : Fields :=
  entity.value.filter fun field => !(entity.rules? field.1).any FieldRules.hidden

def toJson (entity : Entity) : Json :=
  .object <|
    [("elemId", .string entity.elemId.fullName), ("type", entity.objectType.toJson),
      ("value", .object entity.value)] ++
    (if entity.parents.isEmpty then []
     else [("parents", .array (entity.parents.map Parent.toJson))])

/-- Equality, the order of members aside. -/
def same (a b : Entity) : Bool :=
  a.elemId = b.elemId && a.objectType = b.objectType &&
    (Json.object a.value).same (.object b.value) &&
    a.parents.length = b.parents.length &&
    (a.parents.zip b.parents).all fun pair => pair.1.same pair.2

end Entity

end Rollout
