/-!
# Headers

Header fields are pairs of a name, in lower case, and a value.
-/

namespace Rollout

structure Header where
  name : String
  value : String
deriving DecidableEq

namespace Header

def isNameChar (c : Char) : Bool :=
  let marks := ['!', '#', '$', '%', '&', '\'', '*', '+', '-', '.', '^', '_', '\x60', '|', '~']
  c.isAlphanum || marks.contains c

/-- The characters of a header value: no control characters but the tabulator. -/
def isValueChar (c : Char) : Bool := (' ' ≤ c && c ≠ '\x7f') || c = '\t'

/-- A header name in lower case. -/
def name? (text : String) : Option String :=
  if text ≠ "" ∧ text.toList.all isNameChar then some text.toLower else none

def isValue (text : String) : Bool := text.toList.all isValueChar

end Header

end Rollout
