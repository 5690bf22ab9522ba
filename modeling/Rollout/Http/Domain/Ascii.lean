import Rollout.Http.Domain.Label

/-!
# Host names in ASCII

The name that is looked up for a host name with letters of any script.
-/

namespace Rollout.Domain

/-- The ASCII form of a host name, a label at a time. -/
def ascii? (name : List Char) : Option (List Char) := do
  let folded ← fold? name
  let labels ← (Text.pieces (· = '.') folded).mapM labelOf?
  if !labels.all isLabel then none
  if labels.any (·.any isRightToLeft) ∧ !labels.all directionsFit then none
  let written ← labels.mapM asciiLabel?
  return Text.join '.' written

end Rollout.Domain
