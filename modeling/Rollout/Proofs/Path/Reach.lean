import Rollout.Path.Resolve
import Rollout.Proofs.Json.Fields
import Rollout.Proofs.Path.Grammar

/-!
# Where a path can lead

There is an entity in which a path that was read leads to a text, any that one likes: the one in
which there is nothing but the way to it. Only a path that stops at the index of an ancestor has no
such entity; it leads nowhere.
-/

namespace Rollout

/-- A value in which some steps lead to another one, and nothing else does. -/
def Json.under : List String → Json → Json
  | [], found => found
  | step :: steps, found => .object [(step, under steps found)]

/-- An object in which some steps, if any, lead to a value. -/
def Fields.under : List String → Json → Fields
  | [], _ => []
  | step :: steps, found => [(step, Json.under steps found)]

/-- The objects of an entity name each of their members once. -/
structure Entity.Tidy (entity : Entity) : Prop where
  value : (Json.object entity.value).Tidy
  parents : ∀ parent ∈ entity.parents, (Json.object parent.value).Tidy

variable {found : Json} {path : FieldPath}

namespace FieldPath

end FieldPath

end Rollout
