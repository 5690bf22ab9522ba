/-!
# Punycode

Letters beyond ASCII in the labels of a host name, written with ASCII letters and digits: the
ASCII letters of the label, a hyphen, then where the other ones go. Their code points are
written in ascending order, as differences in a number system whose base adapts.

A label that is written so starts with `xn--`, which is not part of the notation itself.
-/

namespace Rollout.Punycode

private def digit (d : Nat) : Char :=
  if d < 26 then Char.ofNat ('a'.toNat + d) else Char.ofNat ('0'.toNat + d - 26)

/-- Digits below this end a number, at the place that `k` tells. -/
def threshold (k bias : Nat) : Nat :=
  if k ≤ bias then 1 else if bias + 26 ≤ k then 26 else k - bias

theorem threshold_pos (k bias : Nat) : 0 < threshold k bias := by
  unfold threshold
  split
  · omega
  · split <;> omega

/-- Divides `delta` by 35 until it is at most 455, counting in steps of 36. -/
private def shrink (delta k : Nat) : Nat × Nat :=
  if 455 < delta then shrink (delta / 35) (k + 36) else (delta, k)
termination_by delta
decreasing_by omega

private def adapt (delta points : Nat) (first : Bool) : Nat :=
  let halved := if first then delta / 700 else delta / 2
  let (rest, k) := shrink (halved + halved / points) 0
  k + 36 * rest / (rest + 38)

/-- A difference in digits, the least one first. -/
private def digits (bias k q : Nat) : List Char :=
  let t := threshold k bias
  if q < t then [digit q]
  else digit (t + (q - t) % (36 - t)) :: digits bias (k + 36) ((q - t) / (36 - t))
termination_by q
decreasing_by
  have positive := threshold_pos k bias
  have smaller := Nat.div_le_self (q - threshold k bias) (36 - threshold k bias)
  omega

private structure State where
  written : List Char
  delta : Nat
  bias : Nat
  handled : Nat

/-- Passes over a character of the label while the code point `m` is written. -/
private def pass (basic m : Nat) (s : State) (c : Char) : State :=
  if c.toNat < m then { s with delta := s.delta + 1 }
  else if c.toNat = m then
    { written := s.written ++ digits s.bias 36 s.delta
      delta := 0
      bias := adapt s.delta (s.handled + 1) (s.handled = basic)
      handled := s.handled + 1 }
  else s

private def insertPoint (m : Nat) : List Nat → List Nat
  | [] => [m]
  | n :: rest =>
    if m < n then m :: n :: rest else if m = n then n :: rest else n :: insertPoint m rest

/-- Writes the code points of a label one after the other; `next` is the least one that has
not been dealt with. -/
private def writePoints (label : List Char) (basic : Nat) : List Nat → Nat → State → State
  | [], _, s => s
  | m :: rest, next, s =>
    let s := { s with delta := s.delta + (m - next) * (s.handled + 1) }
    let s := label.foldl (pass basic m) s
    writePoints label basic rest (m + 1) { s with delta := s.delta + 1 }

/-- The notation of a label with letters beyond ASCII. -/
def encode (label : List Char) : List Char :=
  let basic := label.filter fun c => c.toNat < 0x80
  let points := (label.filter fun c => 0x80 ≤ c.toNat).foldl
    (fun found c => insertPoint c.toNat found) []
  let written := writePoints label basic.length points 0x80 ⟨[], 0, 72, basic.length⟩
  basic ++ (if basic = [] then [] else ['-']) ++ written.written

/-! ## Reading -/

private def digit? (c : Char) : Option Nat :=
  if 'a' ≤ c ∧ c ≤ 'z' then some (c.toNat - 'a'.toNat)
  else if c.isDigit then some (c.toNat - '0'.toNat + 26)
  else none

/-- Numbers in the notation have at most 32 bits. -/
private def word? (n : Nat) : Option Nat := if n < Nat.pow 2 32 then some n else none

private structure Reading where
  label : List Char
  /-- The code point that was put in last, and the place after it. -/
  point : Nat
  place : Nat
  bias : Nat
  /-- The number that is being read: the place and weight of its next digit, and the sum of
  those before with `place`. -/
  k : Nat
  weight : Nat
  sum : Nat

/-- Takes in a digit. The last one of a number tells where a code point goes. -/
private def Reading.next? (r : Reading) (c : Char) : Option Reading := do
  let d ← digit? c
  let sum ← word? (r.sum + d * r.weight)
  let t := threshold r.k r.bias
  if t ≤ d then
    let weight ← word? (r.weight * (36 - t))
    return { r with k := r.k + 36, weight := weight, sum := sum }
  let size := r.label.length + 1
  let point := r.point + sum / size
  if ¬point.isValidChar then none
  let next := sum % size + 1
  return {
    label := r.label.insertIdx (sum % size) (Char.ofNat point)
    point := point
    place := next
    bias := adapt (sum - r.place) size (r.place = 0)
    k := 36
    weight := 1
    sum := next }

/-- The label that a text in the notation stands for. -/
def decode? (text : List Char) : Option (List Char) := do
  let after := (text.reverse.takeWhile (· ≠ '-')).reverse
  let basic := text.take (text.length - after.length - 1)
  let digits := if basic = [] then text else after
  let read ← digits.foldlM Reading.next? ⟨basic, 0x80, 0, 72, 36, 1, 0⟩
  if read.k = 36 then some read.label else none

end Rollout.Punycode
