import Rollout.Json.Basic

/-!
# Text of JSON values

The compact text of a value, without blanks, and the laid out text, one member or item a line
and two more blanks for each level.
-/

namespace Rollout.Json

private def hexPair (n : Nat) : List Char :=
  [Nat.digitChar (n / 16), Nat.digitChar (n % 16)]

/-- A character inside a quoted string: quotes, backslashes and control characters are
escaped, and nothing else. -/
def escape (c : Char) : List Char :=
  if c = '"' then ['\\', '"']
  else if c = '\\' then ['\\', '\\']
  else if c = '\x08' then ['\\', 'b']
  else if c = '\t' then ['\\', 't']
  else if c = '\n' then ['\\', 'n']
  else if c = '\x0c' then ['\\', 'f']
  else if c = '\r' then ['\\', 'r']
  else if c < ' ' then '\\' :: 'u' :: '0' :: '0' :: hexPair c.toNat
  else [c]

def quoted (s : String) : String :=
  String.ofList ('"' :: s.toList.flatMap escape ++ ['"'])

private def braced (body : String) : String := "\x7b" ++ body ++ "\x7d"

mutual

/-- The compact text of a value. -/
def text : Json → String
  | .null => "null"
  | .bool value => if value then "true" else "false"
  | .number value => value.text
  | .string value => quoted value
  | .array items => "[" ++ ",".intercalate (itemTexts items) ++ "]"
  | .object members => braced (",".intercalate (memberTexts members))

def itemTexts : List Json → List String
  | [] => []
  | x :: xs => x.text :: itemTexts xs

def memberTexts : Fields → List String
  | [] => []
  | (name, x) :: rest => (quoted name ++ ":" ++ x.text) :: memberTexts rest

end

/-- A line break and the blanks of a level. -/
private def lineBreak (level : Nat) : String :=
  String.ofList ('\n' :: List.replicate (2 * level) ' ')

private def block (level : Nat) (lines : List String) : String :=
  lineBreak (level + 1) ++ ("," ++ lineBreak (level + 1)).intercalate lines ++ lineBreak level

mutual

/-- The laid out text of a value at a level. -/
def layOut (level : Nat) : Json → String
  | .array [] => "[]"
  | .array (x :: xs) => "[" ++ block level (itemLines (level + 1) (x :: xs)) ++ "]"
  | .object [] => braced ""
  | .object (m :: ms) => braced (block level (memberLines (level + 1) (m :: ms)))
  | .null => "null"
  | .bool value => if value then "true" else "false"
  | .number value => value.text
  | .string value => quoted value

def itemLines (level : Nat) : List Json → List String
  | [] => []
  | x :: xs => x.layOut level :: itemLines level xs

def memberLines (level : Nat) : Fields → List String
  | [] => []
  | (name, x) :: rest => (quoted name ++ ": " ++ x.layOut level) :: memberLines level rest

end

def pretty (value : Json) : String := value.layOut 0

end Rollout.Json
