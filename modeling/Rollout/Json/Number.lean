import Rollout.Number.Shortest

/-!
# Numbers of JSON

A number is an integer of at most 64 bits or a binary floating point number; the two kinds
are never equal. This module holds how both are written.
-/

namespace Rollout

/-- A number: whole if it was written without fraction and exponent and fits. -/
inductive Number where
  | int (value : Int)
  | float (value : Binary64)
deriving DecidableEq

/-- How a decimal form is laid out: the decimal exponents that are written positionally, and
what stands before a positive exponent elsewhere. -/
structure FloatLayout where
  lowest : Int
  highest : Int
  positiveSign : String

/-- Exponents from -5 to 15 are written positionally, with at least one digit after the
point; larger ones carry a plus sign. -/
def FloatLayout.standard : FloatLayout := ⟨-5, 15, "+"⟩

namespace FloatLayout

private def zeros (n : Nat) : List Char := List.replicate n '0'

private def positional (digits : List Char) (power exponent : Int) : List Char :=
  if 0 ≤ power then digits ++ zeros power.toNat ++ ['.', '0']
  else if 0 ≤ exponent then
    digits.take (exponent.toNat + 1) ++ '.' :: digits.drop (exponent.toNat + 1)
  else '0' :: '.' :: zeros (-exponent - 1).toNat ++ digits

private def scientific (layout : FloatLayout) (digits : List Char) (exponent : Int) :
    List Char :=
  let fraction := digits.drop 1
  let mark := if fraction.isEmpty then [] else '.' :: fraction
  let sign := if exponent < 0 then ['-'] else layout.positiveSign.toList
  digits.take 1 ++ mark ++ 'e' :: sign ++ Nat.toDigits 10 exponent.natAbs

/-- The text of a decimal number under a layout. -/
def write (layout : FloatLayout) (d : Decimal) : List Char :=
  let digits := Nat.toDigits 10 d.digits
  let exponent := d.power + digits.length - 1
  if layout.lowest ≤ exponent ∧ exponent ≤ layout.highest then
    positional digits d.power exponent
  else scientific layout digits exponent

end FloatLayout

namespace Number

/-- Equality of values within a kind. -/
def same : Number → Number → Bool
  | .int a, .int b => a == b
  | .float a, .float b => a.same b
  | _, _ => false

def text : Number → String
  | .int value => toString value
  | .float value =>
    let sign := if value.negative then ['-'] else []
    String.ofList (sign ++ FloatLayout.standard.write value.shortest)

end Number

end Rollout
