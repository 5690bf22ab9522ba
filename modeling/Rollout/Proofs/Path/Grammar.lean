import Rollout.Proofs.Path.Text

/-!
# The grammar of paths

A text is read as a path if and only if no piece between its points is empty and the piece after
`_parent`, where the text starts with that, is an index. The path is shown as the text that it was
read from, but for the spelling of the index, and texts that differ in more than that are read as
different paths.
-/

namespace Rollout.FieldPath

/-- What stands between the points of a text. -/
def pieces (text : String) : List String := (text.toList.splitOn '.').map String.ofList

/-- No piece of a text is empty, and if the first one is `_parent` the second one is an index. -/
structure Grammatical (text : String) : Prop where
  ne_empty : text ≠ ""
  piece_ne_empty : ∀ piece ∈ pieces text, piece ≠ ""
  index : (pieces text)[0]? = some "_parent" →
    ∃ written index, (pieces text)[1]? = some written ∧ Text.WritesIndex written index

/-- The pieces of a path with the index of an ancestor, if it has one, written plainly. -/
def plainPieces : List String → List String
  | first :: written :: steps =>
    if first = "_parent" then first :: Text.plainIndex written :: steps
    else first :: written :: steps
  | pieces => pieces

/-- Two texts differ at most in how the index of an ancestor is written. -/
inductive SameButIndex (a b : String) : Prop where
  | same (h : a = b)
  | respelled {written written' : String} {index : Nat} {steps : List String}
      (hwritten : Text.WritesIndex written index) (hwritten' : Text.WritesIndex written' index)
      (left : pieces a = "_parent" :: written :: steps)
      (right : pieces b = "_parent" :: written' :: steps)

/-! ## What pieces stand for -/

variable {segments segments' : List String} {text text' : String} {path path' : FieldPath}

theorem ofText_eq_ok_iff_denotes :
    ofText text = .ok path ↔ text ≠ "" ∧ "" ∉ pieces text ∧ Denotes (pieces text) path := by
  rw [ofText_eq_ok_iff_segments, splitPoints_eq_splitOn, ofSegments?_eq_some_iff, pieces]

theorem Denotes.unique (h : Denotes segments path) (h' : Denotes segments path') :
    path = path' :=
  Option.some.inj
    ((ofSegments?_eq_some_iff.mpr h).symm.trans (ofSegments?_eq_some_iff.mpr h'))

private theorem exists_denotes_iff (hne : segments ≠ []) : (∃ path, Denotes segments path) ↔
    (segments[0]? = some "_parent" →
      ∃ written index, segments[1]? = some written ∧ Text.WritesIndex written index) := by
  constructor
  · intro hread hparent
    obtain ⟨path, h⟩ := hread
    cases h with
    | ancestor h => exact ⟨_, _, rfl, h⟩
    | value h => exact absurd (Option.some.inj hparent) h
  · intro hindex
    obtain ⟨first, rest, rfl⟩ := List.exists_cons_of_ne_nil hne
    by_cases hparent : first = "_parent"
    · subst hparent
      obtain ⟨written, index, hwritten, h⟩ := hindex rfl
      obtain ⟨steps, rfl⟩ : ∃ steps, rest = written :: steps := by
        cases rest with
        | nil => cases hwritten
        | cons second steps => exact ⟨steps, by rw [Option.some.inj hwritten]⟩
      exact ⟨_, .ancestor h⟩
    · exact ⟨_, .value hparent⟩

private theorem written_of_denotes (h : Denotes segments path) :
    path.written = plainPieces segments := by
  cases h with
  | ancestor h =>
    rw [written, plainPieces, if_pos rfl, ← Text.repr_eq_plainIndex h]
    rfl
  | @value first steps h =>
    cases steps with
    | nil => rfl
    | cons second steps => rw [written, plainPieces, if_neg h]

/-! ## Texts -/

theorem intercalate_pieces (text : String) : ".".intercalate (pieces text) = text := by
  rw [pieces, ← splitPoints_eq_splitOn, intercalate_splitPoints]

private theorem exists_path_iff : (∃ path, ofText text = .ok path) ↔ Grammatical text := by
  have hne : pieces text ≠ [] := by simp [pieces, List.splitOn_ne_nil]
  have hpieces : "" ∉ pieces text ↔ ∀ piece ∈ pieces text, piece ≠ "" := List.forall_mem_ne'.symm
  simp only [ofText_eq_ok_iff_denotes, exists_and_left]
  rw [exists_denotes_iff hne, hpieces]
  constructor
  · intro h
    exact ⟨h.1, h.2.1, h.2.2⟩
  · intro h
    exact ⟨h.ne_empty, h.piece_ne_empty, h.index⟩

private theorem eq_iff_sameButIndex (h : Denotes (pieces text) path)
    (h' : Denotes (pieces text') path') : path = path' ↔ SameButIndex text text' := by
  constructor
  · intro heq
    subst heq
    generalize hpieces : pieces text = segments at h
    generalize hpieces' : pieces text' = segments' at h'
    cases h with
    | ancestor h =>
      cases h' with
      | ancestor h' => exact .respelled h h' hpieces hpieces'
    | value h =>
      cases h' with
      | value h' =>
        refine .same ?_
        rw [← intercalate_pieces text, ← intercalate_pieces text', hpieces, hpieces']
  · intro hsame
    cases hsame with
    | same heq =>
      subst heq
      exact h.unique h'
    | respelled hwritten hwritten' left right =>
      rw [left] at h
      rw [right] at h'
      exact (h.unique (.ancestor hwritten)).trans ((Denotes.ancestor hwritten').unique h')

/-- A text is read as a path if and only if it is grammatical. The path is shown as that text with a
plainly written index, what is shown is read as the same path, and another text is so if and only if
it differs at most in how the index is written. -/
theorem read_exactly_grammatical (text : String) :
    ((∃ path, ofText text = .ok path) ↔ Grammatical text) ∧
    ∀ path, ofText text = .ok path →
      ofText path.text = .ok path ∧
      path.text = ".".intercalate (plainPieces (pieces text)) ∧
      ∀ text' path', ofText text' = .ok path' → (path = path' ↔ SameButIndex text text') := by
  refine ⟨exists_path_iff, fun path h => ⟨ofText_text h, ?_, fun text' path' h' => ?_⟩⟩
  · obtain ⟨_, _, hdenotes⟩ := ofText_eq_ok_iff_denotes.mp h
    rw [text_eq, written_of_denotes hdenotes]
  · exact eq_iff_sameButIndex (ofText_eq_ok_iff_denotes.mp h).2.2
      (ofText_eq_ok_iff_denotes.mp h').2.2

/-- The zeros and the sign of an index are not shown, those of a later step are. -/
theorem read_exactly_grammatical_paddedIndex :
    ofText "_parent.+007.id.007" = .ok ⟨.ancestor 7, ["id", "007"]⟩ ∧
    ofText "_parent.7.id.007" = .ok ⟨.ancestor 7, ["id", "007"]⟩ ∧
    (FieldPath.mk (.ancestor 7) ["id", "007"]).text = "_parent.7.id.007" ∧
    SameButIndex "_parent.+007.id.007" "_parent.7.id.007" := by
  have hpadded : ofText "_parent.+007.id.007" = .ok ⟨.ancestor 7, ["id", "007"]⟩ := rfl
  have hplain : ofText "_parent.7.id.007" = .ok ⟨.ancestor 7, ["id", "007"]⟩ := rfl
  obtain ⟨_, hshown, hsame⟩ := (read_exactly_grammatical _).2 _ hpadded
  exact ⟨hpadded, hplain, hshown, (hsame _ _ hplain).mp rfl⟩

end Rollout.FieldPath
