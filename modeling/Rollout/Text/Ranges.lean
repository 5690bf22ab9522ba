import Rollout.Text.Percent
import Rollout.Text.Pieces

/-!
# Tables of characters

Properties of characters are given by the ranges of characters that have them, and what
stands for other characters by replacements. Both are written as text, with code points in
hexadecimal: `300-36f` is a range, `391-3a1=3b1` replaces the characters of a range by those
from another one on, and `a8=20+308,61` replaces each of some characters in a row by a
sequence of its own.
-/

namespace Rollout.Text

/-- The number that hexadecimal digits write. -/
def ofHex (digits : List Char) : Nat :=
  digits.foldl (fun n c => 16 * n + (hexDigit? c).getD 0) 0

/-- Characters in a row, by their code points, ends included. -/
structure CharRange where
  first : Nat
  last : Nat

namespace CharRange

def contains (range : CharRange) (c : Char) : Bool :=
  range.first ≤ c.toNat && c.toNat ≤ range.last

/-- The range that a text writes: its ends, or a single character. -/
def ofWritten (text : List Char) : CharRange :=
  match pieces (· = '-') text with
  | [first, last] => ⟨ofHex first, ofHex last⟩
  | _ => ⟨ofHex text, ofHex text⟩

/-- The ranges that a text writes, a word each. -/
def listOf (text : String) : List CharRange := (words text).map ofWritten

end CharRange

/-- Whether a character is in one of some ranges. -/
def isIn (ranges : List CharRange) (c : Char) : Bool := ranges.any fun range => range.contains c

/-- What stands for some characters in a row. -/
inductive Replacement where
  /-- Each stands for as many places after `target` as it is after the first of the range. -/
  | shift (range : CharRange) (target : Nat)
  /-- The characters from `first` on each have a sequence of their own. -/
  | each (first : Nat) (sequences : List (List Nat))

namespace Replacement

/-- What stands for a character, if this replacement is about it. -/
def of? (replacement : Replacement) (c : Char) : Option (List Char) :=
  match replacement with
  | shift range target =>
    if range.contains c then some [Char.ofNat (target + (c.toNat - range.first))] else none
  | each first sequences =>
    if first ≤ c.toNat then (sequences[c.toNat - first]?).map fun sequence =>
      sequence.map Char.ofNat
    else none

/-- The replacement that a word writes. -/
def ofWritten (text : List Char) : Replacement :=
  let source := text.takeWhile (· ≠ '=')
  let target := (text.dropWhile (· ≠ '=')).drop 1
  if source.contains '-' then shift (.ofWritten source) (ofHex target)
  else each (ofHex source) ((pieces (· = ',') target).map fun sequence =>
    (pieces (· = '+') sequence).map ofHex)

/-- The replacements that a text writes, a word each. -/
def listOf (text : String) : List Replacement := (words text).map ofWritten

/-- What stands for a character by the first of some replacements that is about it. -/
def find? (replacements : List Replacement) (c : Char) : Option (List Char) :=
  replacements.findSome? fun replacement => replacement.of? c

end Replacement

end Rollout.Text
