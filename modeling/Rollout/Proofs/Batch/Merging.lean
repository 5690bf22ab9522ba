import Rollout.Batch.Merge
import Rollout.Proofs.Json.Fields

/-!
# Merging answers without loss

The two passes of a merge, which first drops every `null` of the answer and then patches, are
one recursion that never deletes: the members of the value stay in their places, those that the
answer adds follow in its order, and objects are merged into each other in the same way.
-/

namespace Rollout

namespace Fields

/-- The members of a value after an answer with some members was merged in. -/
def answered (value answer : Fields) : Fields :=
  Json.mergeMembers value (Json.membersWithoutNulls answer)

end Fields

namespace Json

/-- What stands for a member after a member of the answer was merged into it. -/
def answered (old : Option Json) (answer : Json) : Json :=
  (old.getD .null).merge answer.withoutNulls

/-- The members of what is an object, and none of anything else. -/
def membersOf : Option Json → Fields
  | some (.object members) => members
  | _ => []

theorem isNull_withoutNulls (value : Json) : value.withoutNulls.isNull = value.isNull := by
  cases value <;> rfl

theorem answered_object (old : Option Json) (answer : Fields) :
    answered old (.object answer) = .object ((membersOf old).answered answer) := by
  rcases old with _ | old
  · rfl
  · cases old <;> rfl

theorem answered_of_not_isObject (old : Option Json) {answer : Json}
    (h : answer.isObject = false) : answered old answer = answer := by
  cases answer with
  | object members => cases h
  | _ => rfl

end Json

namespace Fields

variable {answer : Fields}

@[simp] theorem answered_nil (value : Fields) : value.answered [] = value := rfl

/-- Merging goes through the members of the answer one after the other. -/
theorem answered_cons (value : Fields) (member : String × Json) (answer : Fields) :
    value.answered (member :: answer) =
      if member.2.isNull then value.answered answer
      else (value.put member.1 (Json.answered (value.get? member.1) member.2)).answered answer := by
  obtain ⟨name, patch⟩ := member
  rw [answered, Json.membersWithoutNulls]
  split
  · rfl
  · rename_i hnull
    rw [Json.mergeMembers, Json.isNull_withoutNulls, if_neg hnull]
    rfl

/-! ## Names and values -/

/-- The members of an answer that a value lacks and that are not `null`. -/
def added (value answer : Fields) : Fields :=
  answer.filter fun member => !member.2.isNull && decide (member.1 ∉ value.names)

theorem names_answered (h : answer.Distinct) (value : Fields) :
    names (value.answered answer) = names value ++ names (value.added answer) := by
  induction answer generalizing value with
  | nil => simp [added]
  | cons member answer ih =>
    have hnodup := List.nodup_cons.mp h
    rw [answered_cons]
    split
    · rename_i hnull
      have hadded : value.added (member :: answer) = value.added answer := by
        simp [added, hnull]
      rw [ih hnodup.2, hadded]
    · rename_i hnull
      rw [ih hnodup.2]
      by_cases hmem : member.1 ∈ names value
      · have hnames : names (value.put member.1 (Json.answered (value.get? member.1) member.2)) =
            names value := names_put_of_mem hmem
        have hadded : value.added (member :: answer) = value.added answer := by
          simp [added, hmem]
        rw [hadded, added, hnames]
        rfl
      · have hadded : value.added (member :: answer) = member :: value.added answer := by
          simp [added, hmem, hnull]
        -- no later member of the answer has the name that is put at the end
        have hlater : added (value ++ [(member.1, Json.answered (value.get? member.1) member.2)])
            answer = value.added answer := by
          apply List.filter_congr
          intro later hlater
          have hname : later.1 ∈ names answer := List.mem_map_of_mem hlater
          have hne : later.1 ≠ member.1 := fun heq => hnodup.1 (heq ▸ hname)
          simp [hne]
        rw [put_of_not_mem _ hmem, hlater, hadded]
        simp

/-- A member that the answer does not give, or gives as `null`, stays as it is; another one is
merged into what stands in its place. -/
theorem get?_answered (h : answer.Distinct) (value : Fields) (name : String) :
    get? (value.answered answer) name =
      match get? answer name with
      | none => get? value name
      | some given =>
        if given.isNull then get? value name
        else some (Json.answered (get? value name) given) := by
  induction answer generalizing value with
  | nil => rfl
  | cons member answer ih =>
    have hnodup := List.nodup_cons.mp h
    rw [answered_cons, get?_cons]
    by_cases hname : member.1 = name
    · have hnone : get? answer name = none :=
        get?_eq_none_iff.mpr (hname ▸ hnodup.1)
      subst hname
      split
      · rename_i hnull
        rw [ih hnodup.2, hnone]
        simp [hnull]
      · rename_i hnull
        rw [ih hnodup.2, hnone]
        simp [hnull, get?_put]
    · rw [if_neg hname]
      split
      · exact ih hnodup.2 value
      · rw [ih hnodup.2]
        simp only [get?_put, if_neg hname]

/-! ## Merging again -/

/-- A value that already has what an answer would make of its members is left alone. -/
theorem answered_eq_self {value : Fields}
    (h : ∀ member ∈ answer, member.2.isNull = false → ∃ held, get? value member.1 = some held ∧
      Json.answered (some held) member.2 = held) : value.answered answer = value := by
  induction answer with
  | nil => rfl
  | cons member answer ih =>
    have hrest := ih fun later hlater => h later (List.mem_cons_of_mem _ hlater)
    rw [answered_cons]
    split
    · exact hrest
    · rename_i hnull
      obtain ⟨held, hheld, hsame⟩ :=
        h member List.mem_cons_self (Bool.eq_false_iff.mpr hnull)
      rw [hheld, hsame, put_eq_self hheld]
      exact hrest

end Fields

namespace Json

mutual

theorem answered_answered : ∀ (answer : Json), answer.Tidy → ∀ old : Option Json,
    answered (some (answered old answer)) answer = answered old answer
  | .null, _, _ => rfl
  | .bool _, _, _ => rfl
  | .number _, _, _ => rfl
  | .string _, _, _ => rfl
  | .array _, _, _ => rfl
  | .object members, h, old => by
    have hmembers := answered_answered_members members h.2
    rw [answered_object, answered_object]
    congr 1
    apply Fields.answered_eq_self
    intro member hmem hnull
    have hgiven := Fields.get?_of_mem h.1 hmem
    have hget := Fields.get?_answered h.1 (membersOf old) member.1
    rw [hgiven] at hget
    simp only [hnull, Bool.false_eq_true, if_false] at hget
    exact ⟨_, hget, hmembers member hmem _⟩

theorem answered_answered_members : ∀ (members : Fields), TidyMembers members →
    ∀ member ∈ members, ∀ old : Option Json,
      answered (some (answered old member.2)) member.2 = answered old member.2
  | [], _, _, hmem, _ => nomatch hmem
  | (_, value) :: rest, h, member, hmem, old => by
    rcases List.mem_cons.mp hmem with rfl | hmem
    · exact answered_answered value h.1 old
    · exact answered_answered_members rest h.2 member hmem old

end

end Json

/-! ## The merge of an answer -/

theorem Entity.merged_of_not_isObject (entity : Entity) {answer : Json}
    (h : answer.isObject = false) : entity.merged answer = entity := by
  rw [merged, h]
  rfl

theorem Entity.merged_object (entity : Entity) (answer : Fields) :
    entity.merged (.object answer) = { entity with value := entity.value.answered answer } := rfl

/-- An answer with some members is merged into a value without loss: the names of the value keep
their order, followed by those that the answer adds; a member that the answer does not give, or
gives as `null`, stays; an object is merged in this same way into what the value has there, or
into the empty object, and anything else stands as it was given. Merging it again changes
nothing. An answer without members leaves the entity alone. -/
theorem merged_without_loss {answer : Fields} (h : (Json.object answer).Tidy) (value : Fields)
    (entity : Entity) :
    { entity with value }.merged (.object answer) =
        { entity with value := value.answered answer } ∧
      Fields.names (value.answered answer) =
        Fields.names value ++ Fields.names (answer.filter fun member =>
          !member.2.isNull && decide (member.1 ∉ Fields.names value)) ∧
      (∀ name, Fields.get? (value.answered answer) name =
        match Fields.get? answer name with
        | none => Fields.get? value name
        | some .null => Fields.get? value name
        | some (.object inner) =>
          some (.object ((Json.membersOf (Fields.get? value name)).answered inner))
        | some other => some other) ∧
      (value.answered answer).answered answer = value.answered answer ∧
      ∀ other : Json, other.isObject = false → entity.merged other = entity := by
  refine ⟨Entity.merged_object _ answer, Fields.names_answered h.1 value, fun name => ?_, ?_,
    fun other hother => entity.merged_of_not_isObject hother⟩
  · rw [Fields.get?_answered h.1]
    cases hgiven : Fields.get? answer name with
    | none => rfl
    | some given =>
      cases given with
      | null => rfl
      | object inner => exact congrArg some (Json.answered_object _ inner)
      | _ => exact congrArg some (Json.answered_of_not_isObject _ rfl)
  · have hagain := Json.answered_answered (.object answer) h (some (.object value))
    rw [Json.answered_object, Json.answered_object] at hagain
    exact Json.object.inj hagain

/-- An element as it is wanted, without the number that the service chooses. -/
def wanted : Entity where
  elemId := ⟨"adapter", "T", "x"⟩
  objectType := .plain
  value := [("name", .string "x"), ("place", .object [("row", .null), ("column", .string "2")]),
    ("notes", .string "none"), ("tags", .array [.string "a", .string "b"])]
  parents := []

/-- What the service answers to it, with a `null` for whatever it does not tell. -/
def answerWithNulls : Fields :=
  [("id", .string "7"), ("name", .null), ("tags", .array [.null, .string "c"]),
    ("notes", .object [("text", .null), ("by", .object [("user", .null)])]), ("state", .null),
    ("place", .object [("column", .null), ("sheet", .string "1"), ("row", .string "4")])]

theorem merged_without_loss_answerWithNulls :
    let merged : Fields := [("name", .string "x"),
      ("place", .object [("row", .string "4"), ("column", .string "2"), ("sheet", .string "1")]),
      ("notes", .object [("by", .object [])]), ("tags", .array [.null, .string "c"]),
      ("id", .string "7")]
    (Json.object answerWithNulls).Tidy ∧
      wanted.merged (.object answerWithNulls) = { wanted with value := merged } ∧
      Fields.names merged = Fields.names wanted.value ++ ["id"] ∧
      merged.answered answerWithNulls = merged ∧ wanted.merged .null = wanted := by
  intro merged
  have htidy : (Json.object answerWithNulls).Tidy := by
    simp only [answerWithNulls, Json.Tidy, Json.TidyMembers, Json.TidyItems, and_true, true_and]
    decide
  obtain ⟨hmerged, hnames, -, hagain, hother⟩ :=
    merged_without_loss htidy wanted.value wanted
  exact ⟨htidy, hmerged, hnames, hagain, hother .null rfl⟩

end Rollout
