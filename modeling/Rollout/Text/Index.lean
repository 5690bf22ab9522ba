/-!
# Written indices

An index is written in decimal digits, a plus sign and zeros in front allowed, and is below
`2 ^ 64`.
-/

namespace Rollout.Text

/-- The number that decimal digits stand for. -/
def ofDigits (digits : List Char) : Nat :=
  digits.foldl (fun n c => 10 * n + (c.toNat - '0'.toNat)) 0

def unsignedIndex? (digits : List Char) : Option Nat :=
  if digits ≠ [] ∧ digits.all Char.isDigit ∧ ofDigits digits < Nat.pow 2 64 then
    some (ofDigits digits)
  else none

/-- The index that a text writes. -/
def index? (s : String) : Option Nat :=
  match s.toList with
  | '+' :: digits => unsignedIndex? digits
  | digits => unsignedIndex? digits

end Rollout.Text
