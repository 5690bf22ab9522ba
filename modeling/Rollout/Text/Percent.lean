/-!
# Percent encoding

Some characters of a text stand for themselves; every byte of the UTF-8 form of the others is
written as a percent sign and two upper case hexadecimal digits.
-/

namespace Rollout.Text

/-- Letters, digits and `-`, `_`, `.`, `~` of ASCII stand for themselves. -/
def isUnreserved (c : Char) : Bool :=
  c.isAlphanum || c = '-' || c = '_' || c = '.' || c = '~'

/-- The upper case hexadecimal digit of a number below sixteen. -/
def upperHexDigit (n : Nat) : Char := (Nat.digitChar n).toUpper

/-- A byte as a percent sign and two digits. -/
def percentByte (b : UInt8) : List Char :=
  ['%', upperHexDigit (b.toNat / 16), upperHexDigit (b.toNat % 16)]

/-- A character as its bytes in UTF-8, each with a percent sign. -/
def percentChar (c : Char) : List Char := (String.utf8EncodeChar c).flatMap percentByte

/-- A text of which only the characters of a class stand for themselves. -/
def percentEncodeBut (kept : Char → Bool) (s : String) : String :=
  String.ofList (s.toList.flatMap fun c => if kept c then [c] else percentChar c)

/-- A text of which only the unreserved characters stand for themselves. -/
def percentEncode (s : String) : String := percentEncodeBut isUnreserved s

/-- The form encoding: a blank is a plus sign, and fewer marks stand for themselves. -/
def formEncode (s : String) : String :=
  let kept (c : Char) : Bool := c.isAlphanum || c = '*' || c = '-' || c = '.' || c = '_'
  String.ofList (s.toList.flatMap fun c =>
    if c = ' ' then ['+'] else if kept c then [c] else percentChar c)

/-- The value of a hexadecimal digit. -/
def hexDigit? (c : Char) : Option Nat :=
  if c.isDigit then some (c.toNat - '0'.toNat)
  else if 'a' ≤ c ∧ c ≤ 'f' then some (c.toNat - 'a'.toNat + 10)
  else if 'A' ≤ c ∧ c ≤ 'F' then some (c.toNat - 'A'.toNat + 10)
  else none

/-- The bytes that a percent encoded text stands for. A percent sign without two digits after
it stands for itself. -/
def percentBytes : List Char → List UInt8
  | [] => []
  | '%' :: a :: b :: rest =>
    match hexDigit? a, hexDigit? b with
    | some high, some low => UInt8.ofNat (16 * high + low) :: percentBytes rest
    | _, _ => String.utf8EncodeChar '%' ++ percentBytes (a :: b :: rest)
  | c :: rest => String.utf8EncodeChar c ++ percentBytes rest

/-- The text that a percent encoded text stands for, if its bytes are UTF-8. -/
def percentDecode? (s : String) : Option String :=
  String.fromUTF8? (percentBytes s.toList).toByteArray

end Rollout.Text
