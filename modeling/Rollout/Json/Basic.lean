import Rollout.Json.Number

/-!
# JSON values

A value of the data format, with the members of an object in the order in which they are
written. Members are looked up, replaced and dropped by name; equality of values ignores
the order of members.
-/

namespace Rollout

/-- A JSON value. The members of an object keep their order. -/
inductive Json where
  | null
  | bool (value : Bool)
  | number (value : Number)
  | string (value : String)
  | array (items : List Json)
  | object (members : List (String × Json))
deriving Inhabited

/-- The members of an object: named values in order. -/
abbrev Fields := List (String × Json)

namespace Fields

/-- The value of the first member of a name. -/
def get? (fields : Fields) (name : String) : Option Json := fields.lookup name

/-- Gives a member a value: in its place if the name is present, else at the end. -/
def put (name : String) (value : Json) : Fields → Fields
  | [] => [(name, value)]
  | (k, v) :: rest => if k = name then (k, value) :: rest else (k, v) :: put name value rest

/-- Drops the first member of a name; the others keep their order. -/
def erase (name : String) : Fields → Fields
  | [] => []
  | (k, v) :: rest => if k = name then rest else (k, v) :: erase name rest

/-- Every name stands once. -/
def Distinct (fields : Fields) : Prop := (fields.map Prod.fst).Nodup

end Fields

namespace Json

def isObject : Json → Bool
  | .object _ => true
  | _ => false

def isNull : Json → Bool
  | .null => true
  | _ => false

mutual

/-- Equality of values, the order of members aside. -/
def same : Json → Json → Bool
  | .null, .null => true
  | .bool a, .bool b => a == b
  | .number a, .number b => a.same b
  | .string a, .string b => a == b
  | .array xs, .array ys => sameItems xs ys
  | .object xs, .object ys => xs.length == ys.length && sameMembers xs ys
  | _, _ => false

def sameItems : List Json → List Json → Bool
  | [], [] => true
  | x :: xs, y :: ys => x.same y && sameItems xs ys
  | _, _ => false

/-- Whether each of the first members stands among the second ones with an equal value. -/
def sameMembers : Fields → Fields → Bool
  | [], _ => true
  | (name, x) :: rest, ys =>
    (match ys.get? name with
      | some y => x.same y
      | none => false) && sameMembers rest ys

end

mutual

/-- Every object in the value names each of its members once. -/
def Tidy : Json → Prop
  | .array items => TidyItems items
  | .object members => Fields.Distinct members ∧ TidyMembers members
  | _ => True

def TidyItems : List Json → Prop
  | [] => True
  | x :: xs => x.Tidy ∧ TidyItems xs

def TidyMembers : Fields → Prop
  | [] => True
  | (_, x) :: rest => x.Tidy ∧ TidyMembers rest

end

end Json

end Rollout
