import Rollout.Json.Scan
import Rollout.Reading.Error

/-!
# Reading documents

Readers of strings, truth values, optional values, lists, tables and records. A reader walks
a document in document order and stops at the first problem.

A record is written as an object, or as an array of its fields in their order, of which the
last ones may be left out if they need not be given.
-/

namespace Rollout

/-- What a reader gives. -/
abbrev Read (α : Type) := Except ReadError α

namespace Read

variable {α β σ : Type}

/-- A fault of the text, as a reader reports it. -/
def ofFault (result : Except Fault α) : Read α := result.mapError .fault

def fail (error : DataError) : Read α := .error (.data error)

/-- The problem of a document that is not what was expected. -/
def wrongType (d : Document) (expected : String) : Read α :=
  match d with
  | .null => fail (.wrongType .null expected)
  | .bool value => fail (.wrongType (.bool value) expected)
  | .number value => fail (.wrongType (.number value) expected)
  | .string value => fail (.wrongType (.string value) expected)
  | .array _ _ => fail (.wrongType .sequence expected)
  | .object _ _ => fail (.wrongType .map expected)
  | .unreadable => .error (.fault .malformed)
  | .broken reading _ _ => .error (.fault reading)

def json (d : Document) : Read Json := ofFault d.toJson

def string (expected : String) : Document → Read String
  | .string value => .ok value
  | d => wrongType d expected

/-- A string that some check turns into a value. -/
def parsed {ε : Type} (check : String → Except ε α) (cause : ε → DataError) (d : Document) :
    Read α := do
  let s ← string "a string" d
  match check s with
  | .ok value => return value
  | .error e => fail (cause e)

def bool : Document → Read Bool
  | .bool value => .ok value
  | d => wrongType d "a boolean"

/-- A value that may be `null`. -/
def optional (read : Document → Read α) : Document → Read (Option α)
  | .null => .ok none
  | d => (read d).map some

/-! ## Lists and tables -/

def eachItem (read : Document → Read α) : List Document → Read (List α)
  | [] => .ok []
  | d :: ds => do
    let x ← read d
    let xs ← eachItem read ds
    return x :: xs

def list (read : Document → Read α) : Document → Read (List α)
  | .array items ending => do
    let values ← eachItem read items
    ofFault (Document.endOf ending)
    return values
  | d => wrongType d "a sequence"

/-- Takes in the members of an object, one after the other. -/
def eachMember (step : σ → String → Document → Read σ) (s : σ) :
    List (Document × Document) → Read σ
  | [] => .ok s
  | (n, d) :: rest => do
    let name ← ofFault n.name
    let s ← step s name d
    eachMember step s rest

/-- An object of any names. -/
def members (step : σ → String → Document → Read σ) (s : σ) : Document → Read σ
  | .object entries ending => do
    let s ← eachMember step s entries
    ofFault (Document.endOf ending)
    return s
  | d => wrongType d "a map"

/-- An object of values of one type; the last value of a name counts. -/
def table (read : Document → Read α) (d : Document) : Read (Table α) :=
  members (fun t name d => do return t.insert name (← read d)) Table.empty d

/-- The members of an object, in order. -/
def fields (d : Document) : Read Fields :=
  members (fun fs name d => do return Fields.put name (← json d) fs) [] d

/-! ## Variants -/

/-- One of some named values. -/
def variant (all : List α) (name : α → String) (d : Document) : Read α := do
  let s ← string "variant identifier" d
  match all.find? fun x => name x = s with
  | some x => return x
  | none => fail (.unknownVariant s (all.map name))

/-- A named value, written as its name or as an object with its name and `null`. -/
def unitVariant (all : List α) (name : α → String) : Document → Read α
  | .string s => variant all name (.string s)
  | .object ((n, d) :: rest) ending => do
    let x ← variant all name n
    match d with
    | .null => pure ()
    | d => wrongType d "unit"
    if !rest.isEmpty then .error (.fault .malformed)
    ofFault (Document.endOf ending)
    return x
  | .object [] (some fault) => .error (.fault fault)
  | .broken reading _ false => .error (.fault reading)
  | _ => .error (.fault .malformed)

/-! ## Records -/

/-- What is done about an array with more items than the record has fields: the text is at
fault, or, if the array has been read before, its length is. -/
inductive Surplus where
  | malformed
  | counted
deriving DecidableEq

/-- How a record is read. The fields found are collected in a draft of type `σ`. -/
structure Shape (σ α : Type) where
  /-- What is expected, for messages. -/
  expected : String
  fields : List String
  /-- Whether other fields are refused. -/
  closed : Bool
  draft : σ
  take : σ → String → Document → Read σ
  /-- The record of a draft, or the first field that it lacks. -/
  finish : σ → Except String α

/-- How many there are of something. -/
def count (n : Nat) (noun : String) : String :=
  toString n ++ " " ++ noun ++ (if n = 1 then "" else "s")

namespace Shape

/-- Takes in a member of an object; `seen` are the names of the fields before it. -/
def takeMember (shape : Shape σ α) (state : σ × List String) (name : String)
    (d : Document) : Read (σ × List String) :=
  if shape.fields.contains name then
    if state.2.contains name then fail (.duplicateField name)
    else do return (← shape.take state.1 name d, name :: state.2)
  else if shape.closed then fail (.unknownField name shape.fields)
  else do
    ofFault d.passOver
    return state

/-- Takes in the items of an array as the fields in order; gives back the items left. -/
def takeItems (shape : Shape σ α) (s : σ) :
    List String → List Document → Read (σ × List Document)
  | name :: names, d :: ds => do
    let s ← shape.take s name d
    takeItems shape s names ds
  | _, ds => .ok (s, ds)

end Shape

def record (shape : Shape σ α) (surplus : Surplus) : Document → Read α
  | .object entries ending => do
    let (s, _) ← eachMember shape.takeMember (shape.draft, []) entries
    ofFault (Document.endOf ending)
    match shape.finish s with
    | .ok value => return value
    | .error name => fail (.missingField name)
  | .array items ending => do
    let arity := shape.fields.length
    let (s, left) ← shape.takeItems shape.draft shape.fields items
    if items.length < arity then ofFault (Document.endOf ending)
    match shape.finish s with
    | .error _ =>
      fail (.wrongLength items.length (shape.expected ++ " with " ++ count arity "element"))
    | .ok value =>
      if !left.isEmpty then
        match surplus with
        | .malformed => .error (.fault .malformed)
        | .counted =>
          fail (.wrongLength items.length (count arity "element" ++ " in sequence"))
      else
        ofFault (Document.endOf ending)
        return value
  | d => wrongType d shape.expected

/-- What a reader makes of a text. After the value only blanks may follow. -/
def text (read : Document → Read α) (s : String) : Read α := do
  let (d, ends) := Document.ofText s
  let value ← read d
  if ends then return value else .error (.fault .malformed)

end Read

end Rollout
