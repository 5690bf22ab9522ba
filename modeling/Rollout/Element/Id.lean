import Rollout.Text.Quoted

/-!
# Element ids

An element is named by its adapter, its type and its own name, written
`adapter.typeName.instance.name`. The name may hold points, the other parts may not.
-/

namespace Rollout

structure ElemId where
  adapter : String
  typeName : String
  name : String
deriving DecidableEq, Inhabited

/-- A text that is no full name of an element. -/
structure ElemIdError where
  text : String
deriving DecidableEq

def ElemIdError.message (e : ElemIdError) : String :=
  "invalid element id " ++ Text.quote e.text ++ ": expected adapter.typeName.instance.name"

namespace ElemId

/-- The word between the type and the name. -/
def marker : String := "instance"

def fullName (id : ElemId) : String :=
  id.adapter ++ "." ++ id.typeName ++ "." ++ marker ++ "." ++ id.name

/-- What stands before and after the first point. -/
def splitAtPoint? : List Char → Option (List Char × List Char)
  | [] => none
  | '.' :: rest => some ([], rest)
  | c :: rest => (splitAtPoint? rest).map fun parts => (c :: parts.1, parts.2)

def ofText (text : String) : Except ElemIdError ElemId :=
  let parts? : Option (List Char × List Char × List Char × List Char) := do
    let (adapter, rest) ← splitAtPoint? text.toList
    let (typeName, rest) ← splitAtPoint? rest
    let (middle, name) ← splitAtPoint? rest
    return (adapter, typeName, middle, name)
  match parts? with
  | some (adapter, typeName, middle, name) =>
    if adapter ≠ [] ∧ typeName ≠ [] ∧ middle = marker.toList ∧ name ≠ [] then
      .ok ⟨String.ofList adapter, String.ofList typeName, String.ofList name⟩
    else .error ⟨text⟩
  | none => .error ⟨text⟩

/-- Ids are ordered by adapter, then type, then name. -/
def precedes (a b : ElemId) : Bool :=
  a.adapter < b.adapter ||
    (a.adapter = b.adapter &&
      (a.typeName < b.typeName || (a.typeName = b.typeName && a.name < b.name)))

/-- Puts an id in its place among ascending ones, unless it is there. -/
def insertSorted (id : ElemId) : List ElemId → List ElemId
  | [] => [id]
  | other :: rest =>
    if id.precedes other then id :: other :: rest
    else if id = other then other :: rest
    else other :: insertSorted id rest

/-- The ids in ascending order, each once. -/
def sorted (ids : List ElemId) : List ElemId :=
  ids.foldl (fun found id => insertSorted id found) []

end ElemId

end Rollout
