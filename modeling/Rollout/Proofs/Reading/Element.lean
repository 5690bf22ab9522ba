import Rollout.Proofs.Element.Id
import Rollout.Proofs.Reading.Record
import Rollout.Reading.Element

/-!
# Entities and changes are read back

What was read of an element id, a type, an entity or a change is read back from what is written
of it.
-/

namespace Rollout

open Read

theorem ElemId.faithful : Faithful ElemId.read fun id => .string id.fullName := by
  refine parsed_faithful fun text id h => ?_
  rw [ElemId.fullName_of_ofText h]
  exact h

theorem FieldRules.read_toJson (surplus : Surplus) (rules : FieldRules) :
    FieldRules.read surplus (.ofJson rules.toJson) = .ok rules := by
  obtain ⟨creatable, updatable, hidden⟩ := rules
  cases creatable <;> cases updatable <;> cases hidden <;> rfl

namespace ObjectType

theorem slots_shape (surplus : Surplus) :
    (shape surplus).Slots [⟨"fields", table (FieldRules.read surplus), id⟩] := by
  refine .of_single rfl rfl (fun _ _ => rfl) fun s other d hother => ?_
  simp [shape]

theorem read_toJson (surplus : Surplus) (type : ObjectType) :
    ObjectType.read surplus (.ofJson type.toJson) = .ok type := by
  have hfields : table (FieldRules.read surplus)
      (.ofJson (.object (type.fields.mapValues FieldRules.toJson).entries)) = .ok type.fields :=
    table_ofJson fun entry _ => FieldRules.read_toJson surplus entry.2
  refine (slots_shape surplus).record_single hfields fun s hs => ?_
  obtain rfl : s = some type.fields := hs
  rfl

end ObjectType

namespace Parent

theorem slots_shape :
    shape.Slots [⟨"elemId", ElemId.read, Draft.elemId⟩, ⟨"value", fields, Draft.value⟩] where
  names := rfl
  distinct := by simp [shape]
  draft := by simp [shape]
  own := by
    simp only [List.forall_mem_cons, List.not_mem_nil, shape]
    refine ⟨fun s d => ?_, fun s d => ?_, nofun⟩
    · cases ElemId.read d <;> rfl
    · cases fields d <;> rfl
  others := by
    intro s name d s' h
    simp only [shape] at h
    split at h
    case h_3 =>
      obtain rfl := Except.ok.inj h
      simp
    all_goals
      obtain ⟨_, _, h⟩ := bind_eq_ok.mp h
      obtain rfl := Except.ok.inj h
      simp

theorem read_toJson (surplus : Surplus) {parent : Parent}
    (helemId : ElemId.read (.ofJson (.string parent.elemId.fullName)) = .ok parent.elemId)
    (hvalue : fields (.ofJson (.object parent.value)) = .ok parent.value) :
    Parent.read surplus (.ofJson parent.toJson) = .ok parent := by
  refine slots_shape.record_eq_ok_of_sublist (List.Sublist.refl _) ?_ ?_
  · simp [Fields.read?_cons, helemId, hvalue, Except.map]
  · intro s hs
    have hheld : some parent.elemId = s.elemId ∧ some parent.value = s.value := by
      simpa [Fields.read?_cons, helemId, hvalue, Except.map] using hs
    simp [shape, ← hheld.1, ← hheld.2]

theorem faithful (surplus : Surplus) : Faithful (Parent.read surplus) Parent.toJson := by
  intro d parent h
  obtain ⟨s, hs, hfinish⟩ := Shape.exists_drafted h
  have hread := slots_shape.exists_read hs
  simp only [List.forall_mem_cons] at hread
  obtain ⟨helemId, hvalue, -⟩ := hread
  simp only [shape] at hfinish
  split at hfinish
  · rename_i id hid
    obtain rfl := Except.ok.inj hfinish
    obtain ⟨d, hd⟩ := helemId id hid
    exact read_toJson surplus (ElemId.faithful d id hd) (fields_faithful.getD hvalue rfl)
  · cases hfinish

end Parent

namespace Entity

theorem slots_shape (surplus : Surplus) : (shape surplus).Slots
    [⟨"elemId", ElemId.read, Draft.elemId⟩,
      ⟨"type", ObjectType.read surplus, Draft.objectType⟩,
      ⟨"value", fields, Draft.value⟩,
      ⟨"parents", list (Parent.read surplus), Draft.parents⟩] where
  names := rfl
  distinct := by simp [shape]
  draft := by simp [shape]
  own := by
    simp only [List.forall_mem_cons, List.not_mem_nil, shape]
    refine ⟨fun s d => ?_, fun s d => ?_, fun s d => ?_, fun s d => ?_, nofun⟩
    · cases ElemId.read d <;> rfl
    · cases ObjectType.read surplus d <;> rfl
    · cases fields d <;> rfl
    · cases list (Parent.read surplus) d <;> rfl
  others := by
    intro s name d s' h
    simp only [shape] at h
    split at h
    case h_5 =>
      obtain rfl := Except.ok.inj h
      simp
    all_goals
      obtain ⟨_, _, h⟩ := bind_eq_ok.mp h
      obtain rfl := Except.ok.inj h
      simp

theorem read_toJson (surplus : Surplus) {entity : Entity}
    (helemId : ElemId.read (.ofJson (.string entity.elemId.fullName)) = .ok entity.elemId)
    (hvalue : fields (.ofJson (.object entity.value)) = .ok entity.value)
    (hparents : list (Parent.read surplus) (.ofJson (.array (entity.parents.map Parent.toJson))) =
      .ok entity.parents) :
    Entity.read surplus (.ofJson entity.toJson) = .ok entity := by
  have htype := ObjectType.read_toJson surplus entity.objectType
  by_cases hempty : entity.parents.isEmpty = true
  · have hnone : entity.parents = [] := List.isEmpty_iff.mp hempty
    rw [Entity.read, toJson, if_pos hempty]
    refine (slots_shape surplus).record_eq_ok_of_sublist ?_ ?_ ?_
    · exact List.take_sublist 3 ["elemId", "type", "value", "parents"]
    · simp [Fields.read?_cons, helemId, htype, hvalue, Except.map]
    · intro s hs
      have hheld : some entity.elemId = s.elemId ∧ some entity.objectType = s.objectType ∧
          some entity.value = s.value ∧ none = s.parents := by
        simpa [Fields.read?_cons, helemId, htype, hvalue, Except.map] using hs
      simp [shape, ← hheld.1, ← hheld.2.1, ← hheld.2.2.1, ← hheld.2.2.2, ← hnone]
  · rw [Entity.read, toJson, if_neg hempty]
    refine (slots_shape surplus).record_eq_ok_of_sublist (List.Sublist.refl _) ?_ ?_
    · simp [Fields.read?_cons, helemId, htype, hvalue, hparents, Except.map]
    · intro s hs
      have hheld : some entity.elemId = s.elemId ∧ some entity.objectType = s.objectType ∧
          some entity.value = s.value ∧ some entity.parents = s.parents := by
        simpa [Fields.read?_cons, helemId, htype, hvalue, hparents, Except.map] using hs
      simp [shape, ← hheld.1, ← hheld.2.1, ← hheld.2.2.1, ← hheld.2.2.2]

theorem faithful (surplus : Surplus) : Faithful (Entity.read surplus) Entity.toJson := by
  intro d entity h
  obtain ⟨s, hs, hfinish⟩ := Shape.exists_drafted h
  have hread := (slots_shape surplus).exists_read hs
  simp only [List.forall_mem_cons] at hread
  obtain ⟨helemId, _, hvalue, hparents, -⟩ := hread
  simp only [shape] at hfinish
  split at hfinish
  · rename_i id hid
    obtain rfl := Except.ok.inj hfinish
    obtain ⟨d, hd⟩ := helemId id hid
    exact read_toJson surplus (ElemId.faithful d id hd) (fields_faithful.getD hvalue rfl)
      ((list_faithful (Parent.faithful surplus)).getD hparents rfl)
  · cases hfinish

end Entity

namespace Change

/-- The slots of the entities that a change of an action has. -/
def slots : Action → List (Slot Draft)
  | .add => [⟨"after", Entity.read .counted, Draft.after⟩]
  | .modify =>
    [⟨"before", Entity.read .counted, Draft.before⟩, ⟨"after", Entity.read .counted, Draft.after⟩]
  | .remove => [⟨"before", Entity.read .counted, Draft.before⟩]

variable {action : Action} {s s' : Draft} {name : String} {d : Document}

-- The expected text of a shape is put together from its action, which keeps `simp` from
-- unfolding the shape, so its parts are stated.
theorem take_shape : (shape action).take s name d = (match name with
    | "before" => do return { s with before := some (← Entity.read .counted d) }
    | "after" => do return { s with after := some (← Entity.read .counted d) }
    | _ => .ok s) := rfl

theorem finish_shape : (shape action).finish s = (match between? action s.before s.after with
    | some change => .ok change
    | none => .error (if action ≠ .add ∧ s.before.isNone then "before" else "after")) := rfl

theorem finish_eq_ok {change : Change} :
    (shape action).finish s = .ok change ↔ between? action s.before s.after = some change := by
  rw [finish_shape]
  cases between? action s.before s.after <;> simp

theorem slots_shape (action : Action) : (shape action).Slots (slots action) where
  names := by cases action <;> rfl
  distinct := by
    change (entityFields action).Nodup
    cases action <;> simp [entityFields]
  draft := by
    change ∀ slot ∈ slots action, slot.held ⟨none, none⟩ = none
    cases action <;> simp [slots]
  own := by
    have hbefore : ∀ s d, ((shape action).take s "before" d).map Draft.before =
        (Entity.read .counted d).map some := by
      intro s d
      simp only [take_shape]
      cases Entity.read .counted d <;> rfl
    have hafter : ∀ s d, ((shape action).take s "after" d).map Draft.after =
        (Entity.read .counted d).map some := by
      intro s d
      simp only [take_shape]
      cases Entity.read .counted d <;> rfl
    cases action <;> simp [slots, hbefore, hafter]
  others := by
    intro s name d s' h
    simp only [take_shape] at h
    split at h
    case h_3 =>
      obtain rfl := Except.ok.inj h
      simp
    all_goals
      obtain ⟨_, _, h⟩ := bind_eq_ok.mp h
      obtain rfl := Except.ok.inj h
      cases action <;> simp [slots]

/-! ## The action and what is kept -/

/-- Once the action is known, the other members are kept. -/
theorem eachMember_takeTagged {action : Action} {kept : List (Document × Document)}
    {rest : Fields} (h : tag ∉ rest.names) :
    eachMember takeTagged (some action, kept) (Document.ofMembers rest) =
      .ok (some action, kept ++ Document.ofMembers rest) := by
  induction rest generalizing kept with
  | nil => rw [Document.ofMembers, eachMember, List.append_nil]
  | cons field rest ih =>
    obtain ⟨name, value⟩ := field
    rw [Fields.names_cons, List.mem_cons, not_or] at h
    obtain ⟨found, hfound⟩ := Document.exists_toJson value
    have hkeep : keep (.ofJson value) = .ok (.ofJson value) :=
      bind_eq_ok.mpr ⟨found, json_eq_ok.mpr hfound, rfl⟩
    rw [Document.ofMembers, eachMember_cons]
    refine ⟨name, rfl, (some action, kept ++ [(.string name, .ofJson value)]), ?_, ?_⟩
    · rw [takeTagged, if_neg (Ne.symm h.1)]
      exact bind_eq_ok.mpr ⟨_, hkeep, rfl⟩
    · rw [ih h.2, List.append_assoc, List.singleton_append]

theorem readTag_text (action : Action) : readTag (.string action.text) = .ok action := by
  cases action <;> rfl

/-- A change is read as the record of its action. -/
theorem read_tagged {action : Action} {rest : Fields} (h : tag ∉ rest.names) :
    Change.read (.ofJson (.object ((tag, .string action.text) :: rest))) =
      record (shape action) .counted (.ofJson (.object rest)) := by
  have htagged : eachMember takeTagged (none, [])
      (Document.ofMembers ((tag, .string action.text) :: rest)) =
        .ok (some action, Document.ofMembers rest) := by
    rw [Document.ofMembers, eachMember_cons]
    refine ⟨tag, rfl, (some action, []), ?_, eachMember_takeTagged h⟩
    rw [takeTagged, if_pos rfl]
    exact bind_eq_ok.mpr ⟨action, readTag_text action, rfl⟩
  rw [Document.ofJson, Change.read, htagged]
  rfl

theorem exists_record {d : Document} {change : Change} (h : Change.read d = .ok change) :
    ∃ action written, record (shape action) .counted written = .ok change := by
  cases d with
  | object entries ending =>
    obtain ⟨⟨action?, kept⟩, _, h⟩ := bind_eq_ok.mp h
    obtain ⟨_, _, h⟩ := bind_eq_ok.mp h
    cases action? with
    | none => exact absurd h fail_ne_ok
    | some action => exact ⟨action, _, h⟩
  | array items ending =>
    cases items with
    | nil =>
      obtain ⟨_, _, h⟩ := bind_eq_ok.mp h
      exact absurd h fail_ne_ok
    | cons first rest =>
      obtain ⟨action, _, h⟩ := bind_eq_ok.mp h
      obtain ⟨_, _, h⟩ := bind_eq_ok.mp h
      exact ⟨action, _, h⟩
  | _ =>
    rw [Change.read] at h
    · exact absurd h wrongType_ne_ok
    all_goals exact nofun

theorem between?_eq_some {before after : Option Entity} {change : Change}
    (h : between? action before after = some change) : change.action = action ∧
      (∀ e, change.before? = some e → before = some e) ∧
        ∀ e, change.after? = some e → after = some e := by
  cases action with
  | add =>
    cases after with
    | none => cases h
    | some after =>
      obtain rfl := Option.some.inj h
      exact ⟨rfl, nofun, fun _ he => he⟩
  | modify =>
    cases before with
    | none => cases h
    | some before =>
      cases after with
      | none => cases h
      | some after =>
        obtain rfl := Option.some.inj h
        exact ⟨rfl, fun _ he => he, fun _ he => he⟩
  | remove =>
    cases before with
    | none => cases h
    | some before =>
      obtain rfl := Option.some.inj h
      exact ⟨rfl, fun _ he => he, nofun⟩

/-- What a change was read from holds its entities. -/
theorem exists_entities {d : Document} {change : Change} (h : Change.read d = .ok change) :
    (∀ e, change.before? = some e → ∃ d, Entity.read .counted d = .ok e) ∧
      ∀ e, change.after? = some e → ∃ d, Entity.read .counted d = .ok e := by
  obtain ⟨action, _, hrecord⟩ := exists_record h
  obtain ⟨s, hs, hfinish⟩ := Shape.exists_drafted hrecord
  obtain ⟨rfl, hbefore, hafter⟩ := between?_eq_some (finish_eq_ok.mp hfinish)
  have hread := (slots_shape change.action).exists_read hs
  cases change with
  | add after =>
    simp only [Change.action, slots, List.forall_mem_singleton] at hread
    exact ⟨nofun, fun e he => hread e (hafter e he)⟩
  | modify before after =>
    simp only [Change.action, slots, List.forall_mem_cons] at hread
    exact ⟨fun e he => hread.1 e (hbefore e he), fun e he => hread.2.1 e (hafter e he)⟩
  | remove before =>
    simp only [Change.action, slots, List.forall_mem_singleton] at hread
    exact ⟨fun e he => hread e (hbefore e he), nofun⟩

theorem read_toJson {change : Change}
    (hbefore : ∀ e, change.before? = some e →
      Entity.read .counted (.ofJson e.toJson) = .ok e)
    (hafter : ∀ e, change.after? = some e → Entity.read .counted (.ofJson e.toJson) = .ok e) :
    Change.read (.ofJson change.toJson) = .ok change := by
  cases change with
  | add after =>
    have hread := hafter after rfl
    have hnames : tag ∉ Fields.names [("after", after.toJson)] := by simp [tag]
    refine (read_tagged hnames).trans ((slots_shape .add).record_single hread fun s hs => ?_)
    have hheld : s.after = some after := hs
    rw [finish_eq_ok, hheld]
    rfl
  | modify before after =>
    have hread := hbefore before rfl
    have hread' := hafter after rfl
    have hnames : tag ∉ Fields.names [("before", before.toJson), ("after", after.toJson)] := by
      simp [tag]
    refine (read_tagged hnames).trans
      ((slots_shape .modify).record_eq_ok_of_sublist (.refl _) ?_ ?_)
    · simp [slots, Fields.read?_cons, hread, hread', Except.map]
    · intro s hs
      have hheld : some before = s.before ∧ some after = s.after := by
        simpa [slots, Fields.read?_cons, hread, hread', Except.map] using hs
      rw [finish_eq_ok, ← hheld.1, ← hheld.2]
      rfl
  | remove before =>
    have hread := hbefore before rfl
    have hnames : tag ∉ Fields.names [("before", before.toJson)] := by simp [tag]
    refine (read_tagged hnames).trans ((slots_shape .remove).record_single hread fun s hs => ?_)
    have hheld : s.before = some before := hs
    rw [finish_eq_ok, hheld]
    rfl

theorem faithful : Faithful Change.read Change.toJson := by
  intro d change h
  obtain ⟨hbefore, hafter⟩ := exists_entities h
  refine read_toJson (fun e he => ?_) fun e he => ?_
  · obtain ⟨d, hd⟩ := hbefore e he
    exact Entity.faithful .counted d e hd
  · obtain ⟨d, hd⟩ := hafter e he
    exact Entity.faithful .counted d e hd

end Change

end Rollout
