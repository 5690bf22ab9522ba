import Rollout.Json.Document
import Rollout.Text.Index
import Rollout.Text.Percent

/-!
# From text to document

The document of a text, by recursive descent over its characters. Every scanning function
returns what it found together with the characters that follow.
-/

namespace Rollout.Document

/-- Drops the blanks of the format. -/
def skipBlanks (cs : List Char) : List Char :=
  cs.dropWhile fun c => c = ' ' || c = '\t' || c = '\n' || c = '\r'

/-- The fault of a text that goes on wrongly, or does not go on. -/
private def faultAt : List Char → Fault
  | [] => .eof
  | _ :: _ => .malformed

/-- A document that breaks off here, for one who reads as for one who passes over. -/
private def brokenAt (fault : Fault) : Document := .broken fault fault false

/-- A word such as `null`, of which the first character has been seen. -/
def scanWord (word : List Char) (found : Document) : List Char → Document × List Char
  | cs => match word, cs with
    | [], rest => (found, rest)
    | _ :: _, [] => (.broken .eof .eof true, [])
    | w :: ws, c :: rest =>
      if w = c then scanWord ws found rest else (.broken .malformed .malformed true, [])

/-! ## Strings -/

private def fourHex? (a b c d : Char) : Option Nat := do
  let first ← Text.hexDigit? a
  let second ← Text.hexDigit? b
  let third ← Text.hexDigit? c
  let fourth ← Text.hexDigit? d
  return ((first * 16 + second) * 16 + third) * 16 + fourth

/-- The fault of a numeric escape that is none: the text ends if fewer than four bytes are
left of it. -/
private def hexFault (rest : List Char) : Fault :=
  if rest.foldl (fun size c => size + c.utf8Size) 0 < 4 then .eof else .malformed

/-- The character of an escape of one letter. -/
def plainEscape? (c : Char) : Option Char :=
  match c with
  | '"' => some '"'
  | '\\' => some '\\'
  | '/' => some '/'
  | 'b' => some '\x08'
  | 'f' => some '\x0c'
  | 'n' => some '\n'
  | 'r' => some '\r'
  | 't' => some '\t'
  | _ => none

/-- What the four digits of a numeric escape stand for. -/
inductive CodeUnit where
  | char (c : Char)
  | leading (n : Nat)
  | trailing (n : Nat)

def CodeUnit.ofNat (n : Nat) : CodeUnit :=
  if 0xd800 ≤ n ∧ n ≤ 0xdbff then .leading n
  else if 0xdc00 ≤ n ∧ n ≤ 0xdfff then .trailing n
  else .char (Char.ofNat n)

/-- The character of a surrogate pair. -/
def pairChar (leading trailing : Nat) : Char :=
  Char.ofNat (0x10000 + (leading - 0xd800) * 0x400 + (trailing - 0xdc00))

/-- What has been read of a string. -/
structure StringState where
  /-- The characters so far, the last one first. -/
  reversed : List Char
  /-- A leading surrogate that waits for its partner. -/
  waiting : Option Nat
  /-- Whether every surrogate so far has its partner. -/
  readable : Bool

namespace StringState

def start : StringState := ⟨[], none, true⟩

/-- The next thing in the string is no surrogate escape. -/
def push (s : StringState) (c : Char) : StringState :=
  { reversed := c :: s.reversed, waiting := none, readable := s.readable && s.waiting.isNone }

/-- The next thing in the string is a numeric escape. -/
def pushUnit (s : StringState) (unit : CodeUnit) : StringState :=
  match s.waiting, unit with
  | some lead, .trailing n => { s with reversed := pairChar lead n :: s.reversed, waiting := none }
  | none, .leading n => { s with waiting := some n }
  | _, .char c => s.push c
  | _, _ => { s with waiting := none, readable := false }

/-- The string is cut off by a fault. An unpaired surrogate comes first for a reader. -/
def cut (s : StringState) (fault : Fault) : Document :=
  .broken (if s.readable then fault else .malformed) fault false

def close (s : StringState) : Document :=
  if s.readable && s.waiting.isNone then .string (String.ofList s.reversed.reverse)
  else .unreadable

end StringState

/-- The rest of a string after its opening quote. -/
def scanString (s : StringState) : List Char → Document × List Char
  | [] => (s.cut .eof, [])
  | '"' :: rest => (s.close, rest)
  | '\\' :: 'u' :: a :: b :: c :: d :: rest =>
    match fourHex? a b c d with
    | some n => scanString (s.pushUnit (.ofNat n)) rest
    | none => (s.cut (hexFault (a :: b :: c :: d :: rest)), [])
  | '\\' :: 'u' :: rest => (s.cut (hexFault rest), [])
  | '\\' :: e :: rest =>
    match plainEscape? e with
    | some c => scanString (s.push c) rest
    | none => (s.cut .malformed, [])
  | ['\\'] => (s.cut .eof, [])
  | c :: rest => if c < ' ' then (s.cut .malformed, []) else scanString (s.push c) rest

/-! ## Numbers -/

/-- A number without fraction and exponent: an integer if it fits into 64 bits, with or
without sign. Minus zero is a binary number. -/
def wholeNumber (negative : Bool) (digits : List Char) : Option Number :=
  let n := Text.ofDigits digits
  if negative = false ∧ n < Nat.pow 2 64 then some (.int n)
  else if negative = true ∧ 0 < n ∧ n ≤ Nat.pow 2 63 then some (.int (-n))
  else (Binary64.ofDecimal? negative n 0).map .float

/-- A number with a fraction or an exponent. -/
def scaledNumber (negative : Bool) (whole fraction : List Char) (exponent : Int) :
    Option Number :=
  let digits := Text.ofDigits (whole ++ fraction)
  (Binary64.ofDecimal? negative digits (exponent - fraction.length)).map .float

private def numberOr (number : Option Number) : Document :=
  match number with
  | some n => .number n
  | none => .unreadable

/-- Splits off leading digits, of which there must be one. A number that the end of the text
cuts off is malformed for one who passes over. -/
private def scanDigits (cs : List Char) : Except Document (List Char × List Char) :=
  let rest := cs.dropWhile Char.isDigit
  match cs.takeWhile Char.isDigit with
  | [] => .error (.broken (faultAt rest) .malformed true)
  | d :: ds => .ok (d :: ds, rest)

private def scanFraction : List Char → Except Document (List Char × List Char)
  | '.' :: rest => scanDigits rest
  | cs => .ok ([], cs)

private def scanExponent : List Char → Except Document (Option Int × List Char)
  | c :: rest =>
    if c = 'e' ∨ c = 'E' then do
      let (negative, rest) := match rest with
        | '-' :: r => (true, r)
        | '+' :: r => (false, r)
        | r => (false, r)
      let (digits, rest) ← scanDigits rest
      let n : Int := Text.ofDigits digits
      return (some (if negative then -n else n), rest)
    else .ok (none, c :: rest)
  | [] => .ok (none, [])

private def scanUnsigned (negative : Bool) (cs : List Char) :
    Except Document (Document × List Char) := do
  let (whole, rest) ← scanDigits cs
  if whole.head? = some '0' ∧ whole.length ≠ 1 then throw (.broken .malformed .malformed true)
  let (fraction, rest) ← scanFraction rest
  let (exponent, rest) ← scanExponent rest
  if fraction.isEmpty ∧ exponent.isNone then return (numberOr (wholeNumber negative whole), rest)
  return (numberOr (scaledNumber negative whole fraction (exponent.getD 0)), rest)

/-- A number, of which the first character is a digit or a minus sign. -/
def scanNumber (cs : List Char) : Document × List Char :=
  let scanned := match cs with
    | '-' :: rest => scanUnsigned true rest
    | _ => scanUnsigned false cs
  match scanned with
  | .ok found => found
  | .error cut => (cut, [])

/-! ## Values -/

/-- An array or object inside `depth` others. Beyond the greatest depth it can only be
passed over. -/
def nest (depth : Nat) (d : Document) : Document :=
  if depth < maxDepth then d
  else match d.passOver with
    | .ok _ => .unreadable
    | .error passing => .broken .malformed passing false

mutual

/-- A value inside `depth` arrays and objects. -/
def scanValue : Nat → Nat → List Char → Document × List Char
  | 0, _, _ => (brokenAt .eof, [])
  | fuel + 1, depth, cs =>
    match skipBlanks cs with
    | [] => (brokenAt .eof, [])
    | 'n' :: rest => scanWord ['u', 'l', 'l'] .null rest
    | 't' :: rest => scanWord ['r', 'u', 'e'] (.bool true) rest
    | 'f' :: rest => scanWord ['a', 'l', 's', 'e'] (.bool false) rest
    | '"' :: rest => scanString .start rest
    | '[' :: rest =>
      match skipBlanks rest with
      | [] => (nest depth (.array [] (some .eof)), [])
      | ']' :: after => (nest depth (.array [] none), after)
      | _ =>
        let (items, ending, after) := scanItems fuel (depth + 1) rest
        (nest depth (.array items ending), after)
    | '{' :: rest =>
      match skipBlanks rest with
      | [] => (nest depth (.object [] (some .eof)), [])
      | '}' :: after => (nest depth (.object [] none), after)
      | '"' :: _ =>
        let (members, ending, after) := scanMembers fuel (depth + 1) rest
        (nest depth (.object members ending), after)
      | _ => (nest depth (.object [] (some .malformed)), [])
    | c :: rest =>
      if c = '-' ∨ c.isDigit then scanNumber (c :: rest) else (brokenAt .malformed, [])

/-- The items from here to the end of an array, at least one. -/
def scanItems : Nat → Nat → List Char → List Document × Option Fault × List Char
  | 0, _, _ => ([], some .eof, [])
  | fuel + 1, depth, cs =>
    let (item, rest) := scanValue fuel depth cs
    match skipBlanks rest with
    | ']' :: after => ([item], none, after)
    | ',' :: next =>
      let (items, ending, after) := scanItems fuel depth next
      (item :: items, ending, after)
    | other => ([item], some (faultAt other), [])

/-- The members from here to the end of an object, at least one. -/
def scanMembers :
    Nat → Nat → List Char → List (Document × Document) × Option Fault × List Char
  | 0, _, _ => ([], some .eof, [])
  | fuel + 1, depth, cs =>
    match skipBlanks cs with
    | '"' :: rest =>
      let (name, rest) := scanString .start rest
      match skipBlanks rest with
      | ':' :: rest =>
        let (value, rest) := scanValue fuel depth rest
        match skipBlanks rest with
        | '}' :: after => ([(name, value)], none, after)
        | ',' :: next =>
          let (members, ending, after) := scanMembers fuel depth next
          ((name, value) :: members, ending, after)
        | other => ([(name, value)], some (faultAt other), [])
      | other => ([(name, brokenAt (faultAt other))], none, [])
    | other => ([(brokenAt (faultAt other), brokenAt .malformed)], none, [])

end

/-- The document of a text, and whether the text ends with it. Twice the length of the text
is enough for the descent, which takes a character at every other step. -/
def ofText (text : String) : Document × Bool :=
  let cs := text.toList
  let (document, rest) := scanValue (2 * cs.length + 2) 0 cs
  (document, (skipBlanks rest).isEmpty)

end Rollout.Document
