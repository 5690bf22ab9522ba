import Rollout.Http.Domain.Letters
import Rollout.Http.Punycode
import Rollout.Text.Direction
import Rollout.Text.Joining

/-!
# Labels of host names

A label is what stands between the points of a host name. Its ASCII form is itself, or the
notation of its letters after `xn--`. Not every row of letters is a label: it must not start
with a mark, joiners are bound to certain letters, and letters of both directions do not mix
freely.
-/

namespace Rollout.Domain

/-- What the ASCII form of a label with letters beyond ASCII starts with. -/
def notationMark : List Char := ['x', 'n', '-', '-']

/-- The longest notation that is read. -/
def longestRead : Nat := 2000

/-- The longest label that has a notation written for it. -/
def longestWritten : Nat := 1000

private def isAscii (label : List Char) : Bool := label.all fun c => c.toNat < 0x80

/-- The letters of a label that may be given in its ASCII form. -/
def labelOf? (text : List Char) : Option (List Char) :=
  if notationMark.isPrefixOf text then do
    let written := text.drop notationMark.length
    if !isAscii text ∨ written = [] ∨ written.getLast? = some '-' ∨
        longestRead < written.length then none
    let label ← Punycode.decode? written
    if fold? label = some label then some label else none
  else some text

def asciiLabel? (label : List Char) : Option (List Char) :=
  if isAscii label then some label
  else if longestWritten < label.length then none
  else some (notationMark ++ Punycode.encode label)

/-! ## Joiners -/

/-- Two letters around this one are not joined. -/
private def nonJoiner : Char := '\u200c'

/-- Two letters around this one are joined. -/
private def joiner : Char := '\u200d'

/-- Whether joiners may stand where they do; `before` is what precedes, the last letter first.
Both may follow a virama, and a non-joiner may part two letters that would join. -/
def joinersFit (before : List Char) : List Char → Bool
  | [] => true
  | c :: rest =>
    let neighbour (letters : List Char) : List Char := (letters.dropWhile Text.isTransparent).take 1
    let fits :=
      if c = joiner then (before.head?).any Text.isVirama
      else if c = nonJoiner then
        (before.head?).any Text.isVirama ||
          ((neighbour before).any Text.joinsNext && (neighbour rest).any Text.joinsPrevious)
      else true
    fits && joinersFit (c :: before) rest

/-! ## Directions -/

/-- Whether a character runs from right to left, or is a number in such a text. -/
def isRightToLeft (c : Char) : Bool :=
  match Text.Direction.of c with
  | .rightToLeft | .arabicLetter | .arabicNumber => true
  | _ => false

/-- The directions that stand in a label of either direction. -/
private def neutral : List Text.Direction :=
  [.europeanNumber, .europeanSeparator, .europeanTerminator, .commonSeparator,
    .otherNeutral, .boundaryNeutral, .nonspacingMark]

/-- Whether the directions in a label fit together, where a name has text from right to left:
each label runs as its first letter does and ends with a letter or number that runs so, and
there are not digits of two kinds. -/
def directionsFit (label : List Char) : Bool :=
  let directions := label.map Text.Direction.of
  let end? := (directions.reverse.dropWhile (· = .nonspacingMark)).head?
  let within (allowed ends : List Text.Direction) : Bool :=
    directions.all (allowed.contains ·) && end?.any (ends.contains ·)
  match directions.head? with
  | none => true
  | some .leftToRight => within (.leftToRight :: neutral) [.leftToRight, .europeanNumber]
  | some .rightToLeft | some .arabicLetter =>
    within (.rightToLeft :: .arabicLetter :: .arabicNumber :: neutral)
        [.rightToLeft, .arabicLetter, .europeanNumber, .arabicNumber] &&
      !(directions.contains .europeanNumber && directions.contains .arabicNumber)
  | some _ => false

/-- Whether the letters of a label may stand together. -/
def isLabel (label : List Char) : Bool := !(label.head?).any Text.isMark && joinersFit [] label

end Rollout.Domain
