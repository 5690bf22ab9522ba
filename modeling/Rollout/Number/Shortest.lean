import Rollout.Number.Binary64

/-!
# Shortest decimal form

The decimal number with the fewest digits that reads back as a given binary one, and of
those the nearest. For one, two, ... seventeen digits the two neighbours of the value on the
grid of that many digits are tried; the first grid with a neighbour inside the interval of
numbers that round to the value decides.
-/

namespace Rollout

/-- The decimal number `digits * 10 ^ power`. -/
structure Decimal where
  digits : Nat
  power : Int
deriving DecidableEq

namespace Decimal

/-- Drops trailing zeros of the digits, at most `fuel` of them. -/
def trim : Nat → Decimal → Decimal
  | 0, d => d
  | fuel + 1, d =>
    if d.digits ≠ 0 ∧ d.digits % 10 = 0 then trim fuel ⟨d.digits / 10, d.power + 1⟩ else d

end Decimal

namespace Binary64

/-- The numbers that round to a value: from `low` to `high` around `value`, all three over
the denominator `den`, the ends included if `closed`. -/
structure Interval where
  low : Nat
  value : Nat
  high : Nat
  den : Nat
  closed : Bool

/-- Half the distance to each neighbour; the one below a power of two is nearer. -/
def interval (x : Binary64) : Interval :=
  let scale := Nat.pow 2 (x.exponent - 2).toNat
  let below := if x.mantissa = Nat.pow 2 52 ∧ -1074 < x.exponent then 1 else 2
  { low := (4 * x.mantissa - below) * scale
    value := 4 * x.mantissa * scale
    high := (4 * x.mantissa + 2) * scale
    den := Nat.pow 2 (2 - x.exponent).toNat
    closed := x.mantissa % 2 = 0 }

namespace Interval

/-- Whether `num / den` times the interval's own denominator lies inside. -/
def contains (i : Interval) (num den : Nat) : Bool :=
  if i.closed then i.low * den ≤ num && num ≤ i.high * den
  else i.low * den < num && num < i.high * den

/-- The decimal exponent of the value: the `k` with `10 ^ k ≤ value < 10 ^ (k + 1)`. -/
def magnitude (i : Interval) : Int :=
  let guess := ((i.value.log2 : Int) - (i.den.log2 : Int) - 1) * 30103 / 100000 - 1
  let reaches (k : Int) : Bool := i.den * Nat.pow 10 k.toNat ≤ i.value * Nat.pow 10 (-k).toNat
  (([guess + 3, guess + 2, guess + 1].find? reaches).getD guess)

/-- The nearer of the value's two neighbours on the grid of multiples of `10 ^ power` that
lie inside, a tie going to the even one. -/
def onGrid? (i : Interval) (power : Int) : Option Decimal :=
  let num := i.value * Nat.pow 10 (-power).toNat
  let den := i.den * Nat.pow 10 power.toNat
  let down := num / den
  let inside (d : Nat) : Bool :=
    i.contains (d * i.den * Nat.pow 10 power.toNat) (Nat.pow 10 (-power).toNat)
  match inside down, inside (down + 1) with
  | true, true => some ⟨roundHalfEven num den, power⟩
  | true, false => some ⟨down, power⟩
  | false, true => some ⟨down + 1, power⟩
  | false, false => none

end Interval

/-- The shortest decimal form of the absolute value of `x`. -/
def shortest (x : Binary64) : Decimal :=
  if x.isZero then ⟨0, 0⟩
  else
    let i := x.interval
    let k := i.magnitude
    match (List.range 17).findSome? fun n : Nat => i.onGrid? (k - n) with
    | some d => d.trim 20
    | none => ⟨0, 0⟩

end Binary64

end Rollout
