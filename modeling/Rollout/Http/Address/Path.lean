import Rollout.Text.Percent
import Rollout.Text.Pieces

/-!
# Paths of addresses

The segments of a path, with those resolved that stand for a place relative to the ones
before them. A drive letter is a place that has none above it.
-/

namespace Rollout.Address

/-! ## Classes of characters -/

/-- The characters of ASCII that can be seen, and the blank. -/
def isPlain (c : Char) : Bool := ' ' ≤ c && c ≤ '~'

/-- The characters that stand for themselves in the fragment of an address. -/
def keptInFragment (c : Char) : Bool :=
  isPlain c && !(c = ' ' || c = '"' || c = '<' || c = '>' || c = '\x60')

/-- The characters that stand for themselves in a path. -/
def keptInPath (c : Char) : Bool :=
  keptInFragment c && !(c = '#' || c = '?' || c = '\x7b' || c = '\x7d')

/-! ## Segments -/

/-- A segment that stands for its own place. -/
def isSingleDot (segment : String) : Bool := segment = "." || segment.toLower = "%2e"

/-- A segment that stands for the place above. -/
def isDoubleDot (segment : String) : Bool :=
  segment = ".." || segment.toLower = ".%2e" || segment.toLower = "%2e." ||
    segment.toLower = "%2e%2e"

/-- Whether a text is a drive letter: a letter with a colon or bar. -/
def isDrive (text : List Char) : Bool :=
  match text with
  | [letter, mark] => letter.isAlpha && (mark = ':' || mark = '|')
  | _ => false

/-- The segments above the last one, which comes first in the list. -/
def above : List String → List String
  | [] => []
  | segment :: before => if isDrive segment.toList then segment :: before else before

/-- A drive letter as it is written at the start of a path of files. -/
def driveText (segment : String) : String := String.ofList (segment.toList.take 1 ++ [':'])

/-- Resolves dot segments; `before` are the segments so far, the last one first. A dot
segment at the end leaves an empty segment. -/
def resolveDots (ofFiles : Bool) (before : List String) : List String → List String
  | [] => before.reverse
  | segment :: rest =>
    if isDoubleDot segment then
      if rest.isEmpty then (above before).reverse ++ [""]
      else resolveDots ofFiles (above before) rest
    else if isSingleDot segment then
      if rest.isEmpty then before.reverse ++ [""] else resolveDots ofFiles before rest
    else if ofFiles && before.isEmpty && isDrive segment.toList then
      resolveDots ofFiles [driveText segment] rest
    else resolveDots ofFiles (segment :: before) rest

/-- The segments that a text writes, without a slash before the first one. -/
def writtenSegments (isSlash : Char → Bool) (cs : List Char) : List String :=
  (Text.pieces isSlash cs).map fun piece =>
    Text.percentEncodeBut keptInPath (String.ofList piece)

/-- A text without its first character if that is a slash. -/
def withoutSlash (isSlash : Char → Bool) : List Char → List Char
  | [] => []
  | c :: rest => if isSlash c then rest else c :: rest

/-- The segments of a path that is given with or without its first slash. -/
def segmentsOf (isSlash : Char → Bool) (cs : List Char) : List String :=
  resolveDots false [] (writtenSegments isSlash (withoutSlash isSlash cs))

/-- The segments of a path of files, and whether it starts with a drive letter. Empty
segments at its start do not count. -/
def fileSegments (written : List String) : List String × Bool :=
  let segments := resolveDots true [] written
  let onDrive := (segments.head?).any fun segment => isDrive segment.toList
  match segments.dropWhile (· = "") with
  | [] => ([""], onDrive)
  | segment :: rest => (segment :: rest, onDrive)

end Rollout.Address
