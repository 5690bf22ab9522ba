import Rollout.Text.Decomposition
import Rollout.Text.Marks

/-!
# Composed text

One text can be written in several ways: a letter and its marks as one character or as
several, and the marks of a letter in any order. The composed form takes characters apart,
puts the marks of each letter in order of their combining classes, and puts together again
what has a character of its own.
-/

namespace Rollout.Text

/-! ## Syllables of Hangul -/

private def firstSyllable : Nat := 0xac00
private def leading : Nat := 0x1100
private def vowel : Nat := 0x1161
/-- A trailing consonant comes after this one, which stands for none. -/
private def noTrailing : Nat := 0x11a7

private def leadingCount : Nat := 19
private def vowelCount : Nat := 21
private def trailingCount : Nat := 28

/-- The letters of a syllable, by its place among the syllables. -/
private def syllableLetters (place : Nat) : List Char :=
  let front := [Char.ofNat (leading + place / (vowelCount * trailingCount)),
    Char.ofNat (vowel + place / trailingCount % vowelCount)]
  let trailing := place % trailingCount
  if trailing = 0 then front else front ++ [Char.ofNat (noTrailing + trailing)]

/-- The syllable of two letters, or of a syllable without trailing consonant and that. -/
private def syllable? (a b : Char) : Option Char :=
  let (a, b) := (a.toNat, b.toNat)
  if leading ≤ a ∧ a < leading + leadingCount ∧ vowel ≤ b ∧ b < vowel + vowelCount then
    let place := ((a - leading) * vowelCount + (b - vowel)) * trailingCount
    some (Char.ofNat (firstSyllable + place))
  else if firstSyllable ≤ a ∧ a < firstSyllable + leadingCount * vowelCount * trailingCount ∧
      (a - firstSyllable) % trailingCount = 0 ∧
      noTrailing < b ∧ b < noTrailing + trailingCount then
    some (Char.ofNat (a + (b - noTrailing)))
  else none

/-! ## Taking apart -/

/-- The parts of a character, which may have parts themselves. -/
private def directParts (c : Char) : List Char :=
  if c.toNat < 0xc0 then [c]
  else if firstSyllable ≤ c.toNat ∧
      c.toNat < firstSyllable + leadingCount * vowelCount * trailingCount then
    syllableLetters (c.toNat - firstSyllable)
  else (Replacement.find? partsOfCharacters c).getD [c]

/-- The parts of a character that have no parts. Parts are nested at most three deep. -/
def partsOf (c : Char) : List Char :=
  ((directParts c).flatMap directParts).flatMap directParts

/-! ## Order of marks -/

/-- Adds a character to a text, of which the last one comes first: a mark goes before the
marks of higher classes at the end. -/
def addOrdered (c : Char) : List Char → List Char
  | [] => [c]
  | d :: before =>
    if combiningClass c ≠ 0 ∧ combiningClass c < combiningClass d then d :: addOrdered c before
    else c :: d :: before

/-- A text with the marks of each letter in order of their classes. -/
def ordered (text : List Char) : List Char :=
  (text.foldl (fun before c => addOrdered c before) []).reverse

/-! ## Putting together -/

/-- The characters that are put together from two. -/
def pairs : List (Char × Char × Char) :=
  partsOfCharacters.flatMap fun
    | .each first sequences => (sequences.zipIdx first).filterMap fun (sequence, n) =>
      match sequence with
      | [a, b] =>
        if isIn keptApart (Char.ofNat n) then none
        else some (Char.ofNat a, Char.ofNat b, Char.ofNat n)
      | _ => none
    | .shift _ _ => []

/-- The character of two parts. -/
def together? (a b : Char) : Option Char :=
  match syllable? a b with
  | some c => some c
  | none => (pairs.find? fun (first, second, _) => first = a && second = b).map (·.2.2)

/-- Puts characters together with a letter. `marks` are those between the letter and the text
that stay apart from it, the last one first; a mark is out of reach behind one of its own
class. -/
def compose (letter : Char) (marks : List Char) : List Char → List Char
  | [] => letter :: marks.reverse
  | c :: rest =>
    let inReach := match marks with
      | [] => true
      | mark :: _ => combiningClass mark < combiningClass c
    match if inReach then together? letter c else none with
    | some whole => compose whole marks rest
    | none =>
      if combiningClass c = 0 then letter :: marks.reverse ++ compose c [] rest
      else compose letter (c :: marks) rest

def composed (text : List Char) : List Char :=
  match ordered (text.flatMap partsOf) with
  | [] => []
  | c :: rest => compose c [] rest

end Rollout.Text
