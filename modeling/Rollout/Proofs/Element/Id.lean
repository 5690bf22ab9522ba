import Rollout.Element.Id

/-!
# Full names

A text is read as an id if and only if it is the full name of an id whose adapter and type are not
empty and have no point and whose name is not empty. So these ids correspond to their full names
one to one, and the full name of any other id is read as another id or as none.
-/

namespace Rollout.ElemId

/-- What may stand before a point of a full name. -/
def Part (part : String) : Prop := part ≠ "" ∧ '.' ∉ part.toList

/-- The parts of an id can be told from its full name. -/
structure WellNamed (id : ElemId) : Prop where
  adapter : Part id.adapter
  typeName : Part id.typeName
  name : id.name ≠ ""

theorem splitAtPoint?_eq_some_iff {cs before after : List Char} :
    splitAtPoint? cs = some (before, after) ↔ '.' ∉ before ∧ cs = before ++ '.' :: after := by
  induction cs generalizing before with
  | nil => simp [splitAtPoint?]
  | cons c rest ih =>
    by_cases hpoint : c = '.'
    · subst hpoint
      rw [splitAtPoint?]
      cases before with
      | nil => simp
      | cons b before =>
        apply iff_of_false
        · simp
        · intro h
          exact h.1 ((List.cons.inj h.2).1 ▸ List.mem_cons_self)
    · rw [splitAtPoint?.eq_3 c rest hpoint, Option.map_eq_some_iff]
      cases before with
      | nil => simp [hpoint]
      | cons b before =>
        constructor
        · intro h
          obtain ⟨⟨front, left⟩, hrest, heq⟩ := h
          simp only [Prod.mk.injEq, List.cons.injEq] at heq
          obtain ⟨⟨rfl, rfl⟩, rfl⟩ := heq
          obtain ⟨hfront, rfl⟩ := ih.mp hrest
          simp [hfront, Ne.symm hpoint]
        · intro h
          obtain ⟨hb, heq⟩ := h
          obtain ⟨rfl, rfl⟩ := List.cons.inj heq
          exact ⟨(before, after), ih.mpr ⟨List.not_mem_of_not_mem_cons hb, rfl⟩, rfl⟩

theorem splitAtPoint?_append {before : List Char} (h : '.' ∉ before) (after : List Char) :
    splitAtPoint? (before ++ '.' :: after) = some (before, after) :=
  splitAtPoint?_eq_some_iff.mpr ⟨h, rfl⟩

theorem toList_fullName (id : ElemId) : id.fullName.toList = id.adapter.toList ++ '.' ::
    (id.typeName.toList ++ '.' :: (marker.toList ++ '.' :: id.name.toList)) := by
  simp [fullName]

theorem ofText_fullName {id : ElemId} (h : id.WellNamed) : ofText id.fullName = .ok id := by
  have hmarker : '.' ∉ marker.toList := by decide
  simp [ofText, toList_fullName, splitAtPoint?_append h.adapter.2,
    splitAtPoint?_append h.typeName.2, splitAtPoint?_append hmarker, h.adapter.1, h.typeName.1,
    h.name]

private theorem wellNamed_of_ofText {text : String} {id : ElemId} (h : ofText text = .ok id) :
    id.WellNamed ∧ id.fullName = text := by
  simp only [ofText] at h
  split at h
  · rename_i hparts
    split at h
    · rename_i hwell
      obtain rfl := Except.ok.inj h
      obtain ⟨⟨adapter, rest⟩, hfirst, hparts⟩ := Option.bind_eq_some_iff.mp hparts
      obtain ⟨⟨typeName, rest'⟩, hsecond, hparts⟩ := Option.bind_eq_some_iff.mp hparts
      obtain ⟨⟨middle, name⟩, hthird, hparts⟩ := Option.bind_eq_some_iff.mp hparts
      cases hparts
      obtain ⟨hadapter, htext⟩ := splitAtPoint?_eq_some_iff.mp hfirst
      obtain ⟨htypeName, rfl⟩ := splitAtPoint?_eq_some_iff.mp hsecond
      obtain ⟨_, rfl⟩ := splitAtPoint?_eq_some_iff.mp hthird
      obtain ⟨hadapter', htypeName', rfl, hname⟩ := hwell
      refine ⟨⟨?_, ?_, ?_⟩, ?_⟩
      · simpa [Part] using ⟨hadapter', hadapter⟩
      · simpa [Part] using ⟨htypeName', htypeName⟩
      · simpa using hname
      · rw [← String.toList_inj, htext, toList_fullName]
        simp
    · cases h
  · cases h

/-- What is read as an id is the full name of that id, and its parts can be told from it. -/
theorem ofText_eq_ok_iff {text : String} {id : ElemId} :
    ofText text = .ok id ↔ id.WellNamed ∧ id.fullName = text := by
  constructor
  · exact wellNamed_of_ofText
  · intro h
    rw [← h.2]
    exact ofText_fullName h.1

theorem fullName_of_ofText {text : String} {id : ElemId} (h : ofText text = .ok id) :
    id.fullName = text :=
  (ofText_eq_ok_iff.mp h).2

/-- A text names an element if and only if it is made of a non-empty adapter and a non-empty type
without points, the word between them and a non-empty name. It is the full name of what it is read
as, and the full name of an id is read as that id if and only if the parts of the id are such. -/
theorem fullName_corresponds :
    (∀ text, (∃ id, ofText text = .ok id) ↔ ∃ adapter typeName name, Part adapter ∧
      Part typeName ∧ name ≠ "" ∧ text = adapter ++ "." ++ typeName ++ ".instance." ++ name) ∧
    (∀ text id, ofText text = .ok id → id.fullName = text) ∧
    (∀ adapter typeName name,
      ofText (fullName ⟨adapter, typeName, name⟩) = .ok ⟨adapter, typeName, name⟩ ↔
        Part adapter ∧ Part typeName ∧ name ≠ "") := by
  have hwritten : ∀ adapter typeName name, fullName ⟨adapter, typeName, name⟩ =
      adapter ++ "." ++ typeName ++ ".instance." ++ name := by
    intro adapter typeName name
    rw [← String.toList_inj]
    simp [toList_fullName, marker]
  refine ⟨fun text => ?_, fun _ _ => fullName_of_ofText, fun adapter typeName name => ?_⟩
  · constructor
    · intro hread
      obtain ⟨id, hid⟩ := hread
      obtain ⟨hwell, rfl⟩ := ofText_eq_ok_iff.mp hid
      exact ⟨id.adapter, id.typeName, id.name, hwell.adapter, hwell.typeName, hwell.name,
        hwritten _ _ _⟩
    · intro hmade
      obtain ⟨adapter, typeName, name, hadapter, htypeName, hname, rfl⟩ := hmade
      rw [← hwritten]
      exact ⟨_, ofText_fullName ⟨hadapter, htypeName, hname⟩⟩
  · rw [ofText_eq_ok_iff, and_iff_left rfl]
    constructor
    · intro hwell
      exact ⟨hwell.adapter, hwell.typeName, hwell.name⟩
    · intro hparts
      exact ⟨hparts.1, hparts.2.1, hparts.2.2⟩

/-- A name may have points and the word of full names in it. An adapter with a point is taken for an
adapter and a type. -/
theorem fullName_corresponds_nestedWord :
    ofText "jira.Board.instance.my.instance.board" =
        .ok ⟨"jira", "Board", "my.instance.board"⟩ ∧
      fullName ⟨"jira", "Board", "my.instance.board"⟩ =
        "jira.Board.instance.my.instance.board" ∧
      ofText (fullName ⟨"jira.Board", "instance", "x"⟩) ≠ .ok ⟨"jira.Board", "instance", "x"⟩ := by
  have hread : ofText "jira.Board.instance.my.instance.board" =
      .ok ⟨"jira", "Board", "my.instance.board"⟩ := rfl
  refine ⟨hread, fullName_corresponds.2.1 _ _ hread, fun hagain => ?_⟩
  obtain ⟨hadapter, _, _⟩ := (fullName_corresponds.2.2 _ _ _).mp hagain
  exact absurd hadapter.2 (by decide)

end Rollout.ElemId
