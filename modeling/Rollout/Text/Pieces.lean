/-!
# Pieces of a text

A text is cut at its separators, and put together again with a separator in between.
-/

namespace Rollout.Text

/-- The pieces of a text between the characters of a kind: one more than there are of them. -/
def pieces (separates : Char → Bool) : List Char → List (List Char)
  | [] => [[]]
  | c :: rest =>
    if separates c then [] :: pieces separates rest
    else match pieces separates rest with
      | [] => [[c]]
      | piece :: more => (c :: piece) :: more

/-- Pieces with a separator between each two. -/
def join (separator : Char) (parts : List (List Char)) : List Char :=
  ([separator] : List Char).intercalate parts

/-- The words of a text, which blanks and line ends separate. -/
def words (text : String) : List (List Char) :=
  (pieces (fun c => c = ' ' || c = '\n') text.toList).filter (· ≠ [])

end Rollout.Text
