import Rollout.Path.FieldPath
import Rollout.Proofs.Text.Index
import Rollout.Proofs.Text.Split

/-!
# The text of a field path

The text of a path that was read is read as the same path. It need not be the text that it was
read from: an index is written without the zeros and the sign that it may have had.
-/

namespace Rollout

namespace FieldPath

theorem splitPoints_eq_splitOn (cs : List Char) : splitPoints cs = cs.splitOn '.' := by
  induction cs with
  | nil => rfl
  | cons c rest ih =>
    rw [splitPoints, List.splitOn, List.splitOnP_cons_eq_if_modifyHead, ih]
    by_cases hpoint : c = '.'
    · rw [if_pos hpoint, if_pos (by simpa using hpoint)]
      rfl
    · rw [if_neg hpoint, if_neg (by simpa using hpoint)]
      cases h : rest.splitOn '.' with
      | nil => exact absurd h (List.splitOnP_ne_nil _ _)
      | cons piece pieces =>
        rw [List.splitOn] at h
        rw [h]
        rfl

theorem not_mem_of_mem_splitPoints {cs piece : List Char} (h : piece ∈ splitPoints cs) :
    '.' ∉ piece := by
  rw [splitPoints_eq_splitOn] at h
  exact Text.not_mem_of_mem_splitOn h

/-- What may stand between the points of a path. -/
def Segment (segment : String) : Prop := segment ≠ "" ∧ '.' ∉ segment.toList

/-- The path that segments are read as, if they are one. -/
def ofSegments? : List String → Option FieldPath
  | [] => none
  | first :: rest =>
    if first = parentSegment then
      match rest with
      | written :: steps => (Text.index? written).map fun index => ⟨.ancestor index, steps⟩
      | [] => none
    else some ⟨.value, first :: rest⟩

/-- Segments are the steps from the entity itself, or, after `_parent` and an index, those from an
ancestor. -/
inductive Denotes : List String → FieldPath → Prop where
  | ancestor {written : String} {index : Nat} {steps : List String}
      (h : Text.WritesIndex written index) :
      Denotes ("_parent" :: written :: steps) ⟨.ancestor index, steps⟩
  | value {first : String} {steps : List String} (h : first ≠ "_parent") :
      Denotes (first :: steps) ⟨.value, first :: steps⟩

theorem ofSegments?_eq_some_iff {segments : List String} {path : FieldPath} :
    ofSegments? segments = some path ↔ Denotes segments path := by
  constructor
  · intro h
    cases segments with
    | nil => cases h
    | cons first rest =>
      by_cases hparent : first = parentSegment
      · rw [ofSegments?.eq_def] at h
        simp only [hparent, if_true] at h
        cases rest with
        | nil => cases h
        | cons written steps =>
          obtain ⟨index, hindex, rfl⟩ := Option.map_eq_some_iff.mp h
          exact hparent ▸ .ancestor (Text.index?_eq_some_iff.mp hindex)
      · simp only [ofSegments?, hparent, if_false, Option.some.injEq] at h
        exact h ▸ .value hparent
  · intro h
    cases h with
    | ancestor h => simp [ofSegments?, parentSegment, Text.index?_eq_some_iff.mpr h]
    | value h => simp [ofSegments?, parentSegment, h]

/-- The segments that the text of a path has. -/
def written (path : FieldPath) : List String :=
  match path.root with
  | .value => path.segments
  | .ancestor index => parentSegment :: toString index :: path.segments

theorem text_eq (path : FieldPath) : path.text = ".".intercalate path.written := by
  rw [text, written]
  cases path.root <;> rfl

theorem splitPoints_intercalate {segments : List String} (hne : segments ≠ [])
    (h : ∀ segment ∈ segments, Segment segment) :
    (splitPoints (".".intercalate segments).toList).map String.ofList = segments := by
  have hpieces : splitPoints (".".intercalate segments).toList = segments.map String.toList := by
    rw [splitPoints_eq_splitOn, String.toList_intercalate]
    refine List.splitOn_intercalate '.' ?_ (by simpa using hne)
    intro piece hpiece
    obtain ⟨segment, hsegment, rfl⟩ := List.mem_map.mp hpiece
    exact (h segment hsegment).2
  rw [hpieces, List.map_map]
  simp

theorem intercalate_splitPoints (text : String) :
    ".".intercalate ((splitPoints text.toList).map String.ofList) = text := by
  rw [← String.toList_inj, String.toList_intercalate, List.map_map, splitPoints_eq_splitOn]
  simp [Function.comp_def, List.intercalate_splitOn]

theorem ofText_eq_ok_iff_segments {text : String} {path : FieldPath} :
    ofText text = .ok path ↔ text ≠ "" ∧ "" ∉ (splitPoints text.toList).map String.ofList ∧
      ofSegments? ((splitPoints text.toList).map String.ofList) = some path := by
  simp only [ofText]
  generalize (splitPoints text.toList).map String.ofList = segments
  by_cases htext : text = ""
  · simp [htext]
  rw [if_neg htext]
  by_cases hempty : "" ∈ segments
  · rw [if_pos (by simpa using hempty)]
    simp [hempty]
  rw [if_neg (by simpa using hempty)]
  simp only [ne_eq, htext, not_false_eq_true, hempty, true_and]
  cases segments with
  | nil => simp [ofSegments?]
  | cons first rest =>
    simp only [ofSegments?]
    by_cases hparent : first = parentSegment
    · rw [if_pos hparent, if_pos hparent]
      cases rest with
      | nil => simp
      | cons digits steps => cases h : Text.index? digits <;> simp [h]
    · rw [if_neg hparent, if_neg hparent]
      simp

/-- A text is read as a path if and only if it is made of segments that are. -/
theorem ofText_eq_ok {text : String} {path : FieldPath} :
    ofText text = .ok path ↔ ∃ segments, (∀ segment ∈ segments, Segment segment) ∧
      text = ".".intercalate segments ∧ ofSegments? segments = some path := by
  rw [ofText_eq_ok_iff_segments]
  constructor
  · rintro ⟨_, hempty, hpath⟩
    refine ⟨_, ?_, (intercalate_splitPoints text).symm, hpath⟩
    intro segment hsegment
    obtain ⟨piece, hpiece, rfl⟩ := List.mem_map.mp hsegment
    refine ⟨fun h => hempty (h ▸ hsegment), ?_⟩
    rw [String.toList_ofList]
    exact not_mem_of_mem_splitPoints hpiece
  · rintro ⟨segments, hsegments, rfl, hpath⟩
    have hne : segments ≠ [] := by
      rintro rfl
      cases hpath
    have hsplit := splitPoints_intercalate hne hsegments
    have hempty : "" ∉ segments := fun h => (hsegments "" h).1 rfl
    refine ⟨?_, hsplit.symm ▸ hempty, hsplit.symm ▸ hpath⟩
    intro htext
    rw [htext] at hsplit
    exact hempty (hsplit ▸ List.mem_cons_self)

theorem segment_repr (n : Nat) : Segment n.repr := by
  have hdigits : n.repr.toList = Nat.toDigits 10 n := Nat.toList_repr
  constructor
  · intro h
    rw [h] at hdigits
    exact Nat.toDigits_ne_nil hdigits.symm
  · intro h
    have hpoint := Nat.isDigit_of_mem_toDigits (by decide) (by decide) (hdigits ▸ h)
    exact absurd hpoint (by decide)

/-- A path that was read is read again from the segments that it is written in. -/
theorem written_of_ofSegments? {segments : List String} {path : FieldPath}
    (hsegments : ∀ segment ∈ segments, Segment segment) (h : ofSegments? segments = some path) :
    (∀ segment ∈ path.written, Segment segment) ∧ ofSegments? path.written = some path := by
  rw [ofSegments?_eq_some_iff] at h ⊢
  cases h with
  | ancestor hindex =>
    simp only [List.forall_mem_cons] at hsegments
    refine ⟨?_, .ancestor hindex.repr⟩
    simp only [written, List.forall_mem_cons]
    exact ⟨hsegments.1, segment_repr _, hsegments.2.2⟩
  | value hvalue => exact ⟨hsegments, .value hvalue⟩

/-- The text of a path that was read is read as that path. -/
theorem ofText_text {s : String} {path : FieldPath} (h : ofText s = .ok path) :
    ofText path.text = .ok path := by
  obtain ⟨segments, hsegments, _, hpath⟩ := ofText_eq_ok.mp h
  obtain ⟨hwritten, hagain⟩ := written_of_ofSegments? hsegments hpath
  exact ofText_eq_ok.mpr ⟨path.written, hwritten, text_eq path, hagain⟩

end FieldPath

end Rollout
