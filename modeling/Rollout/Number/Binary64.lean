/-!
# Binary floating point numbers

The finite numbers of the 64-bit binary format, held as exact values `± m * 2 ^ e`.
A decimal number is read to the nearest of them, a half going to the even mantissa; a
number too large for the format has none.
-/

namespace Rollout

/-- A finite number of the 64-bit binary format. Every value but zero has exactly one form:
the mantissa fills 53 bits, or the exponent is the least one. -/
structure Binary64 where
  negative : Bool
  mantissa : Nat
  exponent : Int
  mantissa_lt : mantissa < Nat.pow 2 53
  exponent_ge : -1074 ≤ exponent
  exponent_le : exponent ≤ 971
  normal : Nat.pow 2 52 ≤ mantissa ∨ exponent = -1074
deriving DecidableEq

namespace Binary64

/-- Zero, with its sign. -/
def zero (negative : Bool) : Binary64 :=
  ⟨negative, 0, -1074, by decide, by decide, by decide, .inr rfl⟩

def isZero (x : Binary64) : Bool := x.mantissa == 0

/-- Equality of values: the two zeros are equal. -/
def same (x y : Binary64) : Bool := x == y || (x.isZero && y.isZero)

/-- `num / den` to the nearest whole number, a half going to the even one. -/
def roundHalfEven (num den : Nat) : Nat :=
  let whole := num / den
  let rest := 2 * (num % den)
  if rest < den then whole
  else if den < rest then whole + 1
  else whole + whole % 2

private def atExponent? (negative : Bool) (num den : Nat) (e : Int) : Option Binary64 :=
  let m := roundHalfEven (num * Nat.pow 2 (-e).toNat) (den * Nat.pow 2 e.toNat)
  if h : m < Nat.pow 2 53 ∧ -1074 ≤ e ∧ e ≤ 971 ∧ (Nat.pow 2 52 ≤ m ∨ e = -1074) then
    some ⟨negative, m, e, h.1, h.2.1, h.2.2.1, h.2.2.2⟩
  else none

/-- The number nearest to `num / den`, or nothing if that is beyond the format. The exponent
is one of the three above `log2 num - log2 den - 53`, or the least one. -/
def ofRatio? (negative : Bool) (num den : Nat) : Option Binary64 :=
  let least : Int := (num.log2 : Int) - (den.log2 : Int) - 53
  [least, least + 1, least + 2].findSome? fun e => atExponent? negative num den (max e (-1074))

/-- The number nearest to `digits * 10 ^ power`. Powers far outside the range of the format
are settled by the number of digits alone. -/
def ofDecimal? (negative : Bool) (digits : Nat) (power : Int) : Option Binary64 :=
  let size : Int := (Nat.toDigits 10 digits).length
  if digits = 0 then some (zero negative)
  else if 310 < power + size then none
  else if power + size < -330 then some (zero negative)
  else ofRatio? negative (digits * Nat.pow 10 power.toNat) (Nat.pow 10 (-power).toNat)

end Binary64

end Rollout
