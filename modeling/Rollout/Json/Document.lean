import Rollout.Json.Basic

/-!
# JSON documents as they are met

A document is the tree of a text up to the point where the text stops being JSON, with that
point kept as a leaf. A reader that wants a typed value walks the tree in document order, so
the first problem on its way decides, whether the text or its content is at fault.

Passing over a value asks less of it than reading it: any depth is passed over, and so are
numbers beyond range and strings with unpaired surrogates.
-/

namespace Rollout

/-- Why a text is not JSON: it ends too early, or it is malformed. -/
inductive Fault where
  | eof
  | malformed
deriving DecidableEq, Repr

/-- A JSON text as far as it goes. The name of a member is a document, since it may be
broken; `ending` tells how a list of items or members ends if not properly. -/
inductive Document where
  | null
  | bool (value : Bool)
  | number (value : Number)
  | string (value : String)
  | array (items : List Document) (ending : Option Fault)
  | object (members : List (Document × Document)) (ending : Option Fault)
  /-- What can be passed over but not read. -/
  | unreadable
  /-- Where the text breaks off, for one who reads and for one who passes over, and whether
  it does so inside a word or number. -/
  | broken (reading passing : Fault) (bare : Bool)
deriving Inhabited

namespace Document

/-- Arrays and objects inside one another that are read: this many and no more. -/
def maxDepth : Nat := 127

mutual

def ofJson : Json → Document
  | .null => .null
  | .bool value => .bool value
  | .number value => .number value
  | .string value => .string value
  | .array items => .array (ofItems items) none
  | .object members => .object (ofMembers members) none

def ofItems : List Json → List Document
  | [] => []
  | x :: xs => ofJson x :: ofItems xs

def ofMembers : Fields → List (Document × Document)
  | [] => []
  | (name, x) :: rest => (.string name, ofJson x) :: ofMembers rest

end

/-- The name of a member, or the fault met in its place. -/
def name : Document → Except Fault String
  | .string value => .ok value
  | .broken reading _ _ => .error reading
  | _ => .error .malformed

/-- How an ending is reported. -/
def endOf : Option Fault → Except Fault Unit
  | none => .ok ()
  | some fault => .error fault

mutual

/-- The value that a document is read as. A repeated name keeps its first place and takes
its last value. -/
def toJson : Document → Except Fault Json
  | .null => .ok .null
  | .bool value => .ok (.bool value)
  | .number value => .ok (.number value)
  | .string value => .ok (.string value)
  | .array items ending => do
    let values ← toItems items
    endOf ending
    return .array values
  | .object members ending => do
    let values ← toMembers [] members
    endOf ending
    return .object values
  | .unreadable => .error .malformed
  | .broken reading _ _ => .error reading

def toItems : List Document → Except Fault (List Json)
  | [] => .ok []
  | d :: ds => do
    let x ← d.toJson
    let xs ← toItems ds
    return x :: xs

def toMembers (before : Fields) : List (Document × Document) → Except Fault Fields
  | [] => .ok before
  | (n, d) :: rest => do
    let key ← n.name
    let x ← d.toJson
    toMembers (before.put key x) rest

end

mutual

/-- The fault met by one who passes over a document. -/
def passOver : Document → Except Fault Unit
  | .array items ending => do
    passOverItems items
    endOf ending
  | .object members ending => do
    passOverMembers members
    endOf ending
  | .broken _ passing _ => .error passing
  | _ => .ok ()

def passOverItems : List Document → Except Fault Unit
  | [] => .ok ()
  | d :: ds => do
    d.passOver
    passOverItems ds

def passOverMembers : List (Document × Document) → Except Fault Unit
  | [] => .ok ()
  | (.string _, d) :: rest => do
    d.passOver
    passOverMembers rest
  | (.unreadable, d) :: rest => do
    d.passOver
    passOverMembers rest
  | (.broken _ passing _, _) :: _ => .error passing
  | _ :: _ => .error .malformed

end

end Document

end Rollout
