import Rollout.Http.Domain.Ascii

/-!
# Hosts

The host of an address in its normal form: a domain in lower case ASCII, a version 4 address
in four decimal numbers, or a version 6 address in brackets.
-/

namespace Rollout.Host

open Text (pieces join)

private def dot (c : Char) : Bool := c = '.'

/-! ## Version 4 addresses -/

private def inBase? (base : Nat) (digits : List Char) : Option Nat :=
  digits.foldlM (fun n c => do
    let d ← Text.hexDigit? c
    if d < base then some (base * n + d) else none) 0

/-- A number of an address: hexadecimal after `0x`, octal after `0`, else decimal. -/
def number? : List Char → Option Nat
  | [] => none
  | '0' :: 'x' :: digits => inBase? 16 digits
  | '0' :: 'X' :: digits => inBase? 16 digits
  | '0' :: d :: digits => inBase? 8 (d :: digits)
  | digits => inBase? 10 digits

/-- The parts of a name, a point at its end aside. -/
private def labels (name : List Char) : List (List Char) :=
  let parts := pieces dot name
  if parts.getLast? = some [] ∧ parts.length ≠ 1 then parts.dropLast else parts

/-- Whether the last part of a name is a number, so that the name has to be an address. -/
def endsInNumber (name : List Char) : Bool :=
  match (labels name).getLast? with
  | some last => (!last.isEmpty && last.all Char.isDigit) || (number? last).isSome
  | none => false

/-- The address of up to four numbers, of which the last one fills what is left. -/
def version4? (name : List Char) : Option Nat := do
  let parts := labels name
  if 4 < parts.length then none
  let numbers ← parts.mapM number?
  let last ← numbers.getLast?
  let front := numbers.dropLast
  if front.any (255 < ·) ∨ Nat.pow 256 (4 - front.length) ≤ last then none
  let high := front.foldl (fun n part => 256 * n + part) 0
  return high * Nat.pow 256 (4 - front.length) + last

private def version4Text (address : Nat) : List Char :=
  join '.' ([24, 16, 8, 0].map fun shift => Nat.toDigits 10 (address >>> shift % 256))

/-! ## Version 6 addresses -/

/-- A group of one to four hexadecimal digits. -/
private def group? (digits : List Char) : Option Nat :=
  if 1 ≤ digits.length ∧ digits.length ≤ 4 then inBase? 16 digits else none

/-- A decimal number up to 255 without zeros in front. -/
private def octet? (digits : List Char) : Option Nat := do
  if digits.isEmpty ∨ (digits.head? = some '0' ∧ digits.length ≠ 1) then none
  let n ← if digits.all Char.isDigit then inBase? 10 digits else none
  if n ≤ 255 then some n else none

/-- Groups joined by colons, of which the last one may be a version 4 address. -/
private def groups? : List (List Char) → Option (List Nat)
  | [] => some []
  | [last] =>
    if last.contains '.' then do
      match ← (pieces dot last).mapM octet? with
      | [a, b, c, d] => return [256 * a + b, 256 * c + d]
      | _ => none
    else (group? last).map fun g => [g]
  | part :: rest => do return (← group? part) :: (← groups? rest)

/-- What stands before and after two colons in a row. -/
private def splitGap? : List Char → Option (List Char × List Char)
  | ':' :: ':' :: rest => some ([], rest)
  | [] => none
  | c :: rest => (splitGap? rest).map fun parts => (c :: parts.1, parts.2)

private def groupsOf (text : List Char) : Option (List Nat) :=
  if text = [] then some [] else groups? (pieces (· = ':') text)

/-- The eight groups of an address. -/
def version6? (text : List Char) : Option (List Nat) := do
  match splitGap? text with
  | some (front, back) =>
    if front.contains '.' then none
    let front ← groupsOf front
    let back ← groupsOf back
    if front.length + back.length ≤ 7 then
      some (front ++ List.replicate (8 - front.length - back.length) 0 ++ back)
    else none
  | none =>
    let groups ← groupsOf text
    if groups.length = 8 then some groups else none

/-- The place and length of the first longest run of zeros. -/
private def longestZeros (groups : List Nat) : Nat × Nat :=
  let runs := (List.range groups.length).map fun i =>
    (i, ((groups.drop i).takeWhile (· = 0)).length)
  runs.foldl (fun best run => if best.2 < run.2 then run else best) (0, 0)

private def version6Text (groups : List Nat) : List Char :=
  let written (gs : List Nat) : List Char := join ':' (gs.map (Nat.toDigits 16))
  let (place, length) := longestZeros groups
  if length < 2 then written groups
  else written (groups.take place) ++ [':', ':'] ++ written (groups.drop (place + length))

/-! ## Hosts -/

/-- Characters that no host holds. -/
def isForbidden (c : Char) : Bool :=
  c = '\x00' || c = '\t' || c = '\n' || c = '\r' || c = ' ' || c = '#' || c = '/' || c = ':' ||
    c = '<' || c = '>' || c = '?' || c = '@' || c = '[' || c = '\\' || c = ']' || c = '^' ||
    c = '|'

/-- Characters that no domain holds. -/
def isForbiddenInDomain (c : Char) : Bool :=
  isForbidden c || c ≤ '\x1f' || c = '%' || c = '\x7f'

private def bracketed? (text : List Char) : Option String := do
  if text.getLast? ≠ some ']' then none
  let groups ← version6? text.dropLast
  return String.ofList ('[' :: version6Text groups ++ [']'])

/-- The host of an address on the network. -/
def domain? : List Char → Option String
  | '[' :: rest => bracketed? rest
  | text => do
    let decoded ← Text.percentDecode? (String.ofList text)
    let name ← Domain.ascii? decoded.toList
    if name = [] ∨ name.any isForbiddenInDomain then none
    else if endsInNumber name then (version4? name).map fun n => String.ofList (version4Text n)
    else some (String.ofList name)

/-- The host of an address of an unknown kind. -/
def other? : List Char → Option String
  | '[' :: rest => bracketed? rest
  | text =>
    if text.any isForbidden then none
    else some (Text.percentEncodeBut (fun c => ' ' ≤ c && c ≤ '~') (String.ofList text))

end Rollout.Host
