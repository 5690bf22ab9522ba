import Rollout.Proofs.Reading.Basic

/-!
# How records are read

A record is put together from slots: each holds what a reader made of the field of its name.
What a record is read from may be an object or an array, with fields repeated, left out or
passed over; in all cases what a slot holds was read by its reader. An object of distinct known
names is accepted if and only if each member is by the reader of its slot.
-/

namespace Rollout

/-- What a reader makes of the member of a name, if there is one. -/
def Fields.read? {β : Type} (fields : Fields) (name : String) (read : Document → Read β) :
    Read (Option β) :=
  match fields.get? name with
  | some value => (read (.ofJson value)).map some
  | none => .ok none

namespace Fields

open Read

variable {β : Type} {fields : Fields} {name : String} {read : Document → Read β}

theorem read?_of_none (h : fields.get? name = none) : fields.read? name read = .ok none := by
  rw [read?, h]

theorem read?_of_some {value : Json} (h : fields.get? name = some value) :
    fields.read? name read = (read (.ofJson value)).map some := by
  rw [read?, h]

@[simp] theorem read?_nil : read? [] name read = .ok none := rfl

theorem read?_cons (field : String × Json) : read? (field :: fields) name read =
    if field.1 = name then (read (.ofJson field.2)).map some else read? fields name read := by
  rw [read?, get?_cons]
  by_cases h : field.1 = name
  · rw [if_pos h, if_pos h]
  · rw [if_neg h, if_neg h, read?]

/-- What is only written if there is something to write is read back in both cases. -/
theorem read?_getD {missing : Prop} [Decidable missing] {written : Json} {x unsaid : β}
    (hget : fields.get? name = if missing then none else some written)
    (hmissing : missing → unsaid = x) (hread : read (.ofJson written) = .ok x) :
    (fields.read? name read).map (fun found => found.getD unsaid) = .ok x := by
  by_cases h : missing
  · rw [if_pos h] at hget
    rw [read?_of_none hget, ← hmissing h]
    rfl
  · rw [if_neg h] at hget
    rw [read?_of_some hget, hread]
    rfl

/-- What is only written if it is there is read back in both cases. -/
theorem read?_join {found : Option β} {write : β → Json}
    (hget : fields.get? name = found.map write)
    (hread : ∀ x, found = some x → optional read (.ofJson (write x)) = .ok (some x)) :
    (fields.read? name (optional read)).map Option.join = .ok found := by
  cases found with
  | none =>
    rw [read?_of_none hget]
    rfl
  | some x =>
    rw [read?_of_some hget, hread x rfl]
    rfl

theorem read?_eq_ok_some {found : β} : fields.read? name read = .ok (some found) ↔
    ∃ value, fields.get? name = some value ∧ read (.ofJson value) = .ok found := by
  cases h : fields.get? name with
  | none => simp [read?_of_none h]
  | some value => simp [read?_of_some h, Read.map_eq_ok]

/-! ## Fields that need not be given -/

theorem read_of_getD {x unsaid : β} {value : Json}
    (h : (fields.read? name read).map (fun found => found.getD unsaid) = .ok x)
    (hget : fields.get? name = some value) : read (.ofJson value) = .ok x := by
  rw [read?_of_some hget] at h
  obtain ⟨_, hfound, hx⟩ := map_eq_ok.mp h
  obtain ⟨y, hread, rfl⟩ := map_eq_ok.mp hfound
  exact hx ▸ hread

theorem eq_of_getD {x unsaid : β}
    (h : (fields.read? name read).map (fun found => found.getD unsaid) = .ok x)
    (hget : fields.get? name = none) : x = unsaid := by
  rw [read?_of_none hget] at h
  exact (Except.ok.inj h).symm

theorem exists_getD (h : ∀ value, fields.get? name = some value →
    ∃ x, read (.ofJson value) = .ok x) (unsaid : β) :
    ∃ x, (fields.read? name read).map (fun found => found.getD unsaid) = .ok x := by
  cases hget : fields.get? name with
  | none =>
    rw [read?_of_none hget]
    exact ⟨unsaid, rfl⟩
  | some value =>
    obtain ⟨x, hx⟩ := h value hget
    rw [read?_of_some hget, hx]
    exact ⟨x, rfl⟩

theorem read_of_join {found : Option β} {value : Json}
    (h : (fields.read? name (Read.optional read)).map Option.join = .ok found)
    (hget : fields.get? name = some value) :
    value = .null ∧ found = none ∨ ∃ x, read (.ofJson value) = .ok x ∧ found = some x := by
  rw [read?_of_some hget] at h
  obtain ⟨_, hfound, hx⟩ := map_eq_ok.mp h
  obtain ⟨y, hread, rfl⟩ := map_eq_ok.mp hfound
  obtain rfl : y = found := hx
  rcases optional_eq_ok.mp hread with ⟨hnull, rfl⟩ | ⟨_, x, hx, rfl⟩
  · cases value with
    | null => exact .inl ⟨rfl, rfl⟩
    | _ => cases hnull
  · exact .inr ⟨x, hx, rfl⟩

theorem exists_join (h : ∀ value, fields.get? name = some value →
    value = .null ∨ ∃ x, read (.ofJson value) = .ok x) :
    ∃ found, (fields.read? name (Read.optional read)).map Option.join = .ok found := by
  cases hget : fields.get? name with
  | none =>
    rw [read?_of_none hget]
    exact ⟨none, rfl⟩
  | some value =>
    have hoptional : ∃ found, Read.optional read (.ofJson value) = .ok found := by
      by_cases hnull : value = .null
      · rw [hnull]
        exact ⟨none, rfl⟩
      · obtain ⟨x, hx⟩ := (h value hget).resolve_left hnull
        refine ⟨some x, optional_eq_ok.mpr (.inr ⟨?_, x, hx, rfl⟩)⟩
        cases value with
        | null => exact absurd rfl hnull
        | _ => exact nofun
    obtain ⟨found, hfound⟩ := hoptional
    rw [read?_of_some hget, hfound]
    exact ⟨found, rfl⟩

theorem eq_of_join {found : Option β}
    (h : (fields.read? name (Read.optional read)).map Option.join = .ok found)
    (hget : fields.get? name = none) : found = none := by
  rw [read?_of_none hget] at h
  exact (Except.ok.inj h).symm

end Fields

namespace Read

variable {σ α : Type}

/-- The place of a field in a draft. -/
structure Slot (σ : Type) where
  {β : Type}
  name : String
  read : Document → Read β
  held : σ → Option β

namespace Shape

/-- The slots of a record: taking in a field fills its slot and leaves the others alone. -/
structure Slots (shape : Shape σ α) (slots : List (Slot σ)) : Prop where
  names : slots.map Slot.name = shape.fields
  distinct : shape.fields.Nodup
  draft : ∀ slot ∈ slots, slot.held shape.draft = none
  own : ∀ slot ∈ slots, ∀ s d,
    (shape.take s slot.name d).map slot.held = (slot.read d).map some
  others : ∀ s name d s', shape.take s name d = .ok s' →
    ∀ slot ∈ slots, slot.name = name ∨ slot.held s' = slot.held s

/-- A record of one field holds what its reader makes of it. -/
theorem Slots.of_single {β : Type} {shape : Shape (Option β) α} {name : String}
    {read : Document → Read β} (hfields : shape.fields = [name]) (hdraft : shape.draft = none)
    (hown : ∀ s d, shape.take s name d = (read d).map some)
    (hothers : ∀ s other d, other ≠ name → shape.take s other d = .ok s) :
    shape.Slots [⟨name, read, id⟩] where
  names := hfields.symm
  distinct := hfields ▸ List.nodup_singleton name
  draft := List.forall_mem_singleton.mpr hdraft
  own := by
    refine List.forall_mem_singleton.mpr fun s d => ?_
    change (shape.take s name d).map id = (read d).map some
    rw [hown]
    cases read d <;> rfl
  others := by
    intro s other d s' h
    refine List.forall_mem_singleton.mpr ?_
    by_cases hname : other = name
    · exact .inl hname.symm
    · rw [hothers s other d hname] at h
      exact .inr (Except.ok.inj h).symm

/-- The drafts that come up when records are read. -/
inductive Drafted (shape : Shape σ α) : σ → Prop
  | draft : Drafted shape shape.draft
  | take {s s' : σ} {name : String} {d : Document} :
    Drafted shape s → shape.take s name d = .ok s' → Drafted shape s'

variable {shape : Shape σ α} {slots : List (Slot σ)} {slot : Slot σ} {s s' : σ}

theorem Slots.take_own (hslots : shape.Slots slots) (hslot : slot ∈ slots) {d : Document}
    (h : shape.take s slot.name d = .ok s') :
    ∃ x, slot.read d = .ok x ∧ slot.held s' = some x := by
  have hown := hslots.own slot hslot s d
  rw [h] at hown
  obtain ⟨x, hx, hheld⟩ := map_eq_ok.mp hown.symm
  exact ⟨x, hx, hheld.symm⟩

theorem Slots.exists_take (hslots : shape.Slots slots) (hslot : slot ∈ slots) {d : Document}
    {x : slot.β} (h : slot.read d = .ok x) (s : σ) : ∃ s', shape.take s slot.name d = .ok s' := by
  have hown := hslots.own slot hslot s d
  rw [h] at hown
  obtain ⟨s', hs', _⟩ := map_eq_ok.mp hown
  exact ⟨s', hs'⟩

/-- What a slot holds was read by its reader. -/
theorem Slots.exists_read (hslots : shape.Slots slots) (h : shape.Drafted s) :
    ∀ slot ∈ slots, ∀ x, slot.held s = some x → ∃ d, slot.read d = .ok x := by
  intro slot hslot
  induction h with
  | draft =>
    intro x hx
    rw [hslots.draft slot hslot] at hx
    cases hx
  | @take s s' name d _ htake ih =>
    intro x hx
    rcases hslots.others s name d s' htake slot hslot with rfl | hsame
    · obtain ⟨y, hy, hheld⟩ := hslots.take_own hslot htake
      obtain rfl := Option.some.inj (hheld.symm.trans hx)
      exact ⟨d, hy⟩
    · exact ih x (hsame ▸ hx)

/-! ## Every record is finished from a draft -/

theorem takeItems_drafted {names : List String} {ds left : List Document}
    (h : shape.takeItems s names ds = .ok (s', left)) (hs : shape.Drafted s) :
    shape.Drafted s' := by
  induction names generalizing s ds with
  | nil =>
    rw [takeItems, Except.ok.injEq, Prod.mk.injEq] at h
    · exact h.1 ▸ hs
    · exact nofun
  | cons name names ih =>
    cases ds with
    | nil =>
      rw [takeItems, Except.ok.injEq, Prod.mk.injEq] at h
      · exact h.1 ▸ hs
      · exact nofun
    | cons d ds =>
      rw [takeItems] at h
      obtain ⟨between, hbetween, h⟩ := bind_eq_ok.mp h
      exact ih h (hs.take hbetween)

theorem takeMember_drafted {state state' : σ × List String} {name : String} {d : Document}
    (hs : shape.Drafted state.1) (h : shape.takeMember state name d = .ok state') :
    shape.Drafted state'.1 := by
  rw [takeMember] at h
  split at h
  · split at h
    · exact absurd h fail_ne_ok
    · obtain ⟨s, hs', h⟩ := bind_eq_ok.mp h
      obtain rfl := Except.ok.inj h
      exact hs.take hs'
  split at h
  · exact absurd h fail_ne_ok
  · obtain ⟨_, _, h⟩ := bind_eq_ok.mp h
    obtain rfl := Except.ok.inj h
    exact hs

theorem record_object_eq_ok {surplus : Surplus} {entries : List (Document × Document)}
    {ending : Option Fault} {value : α} :
    record shape surplus (.object entries ending) = .ok value ↔ ending = none ∧
      ∃ state, eachMember shape.takeMember (shape.draft, []) entries = .ok state ∧
        shape.finish state.1 = .ok value := by
  rw [record, bind_eq_ok]
  constructor
  · rintro ⟨⟨s, seen⟩, hmembers, h⟩
    obtain ⟨_, hending, h⟩ := bind_eq_ok.mp h
    refine ⟨Document.endOf_eq_ok.mp (ofFault_eq_ok.mp hending), (s, seen), hmembers, ?_⟩
    split at h
    · rename_i hfinish
      rw [hfinish, ← Except.ok.inj h]
    · exact absurd h fail_ne_ok
  · rintro ⟨rfl, ⟨s, seen⟩, hmembers, hfinish⟩
    refine ⟨(s, seen), hmembers, ?_⟩
    simp only [hfinish]
    rfl

/-- Items left over are refused in both ways. -/
private theorem eq_of_no_items_left {surplus : Surplus} {left : List Document}
    {ending : Option Fault} {error : DataError} {found value : α}
    (h : (if !left.isEmpty then
        match surplus with
        | .malformed => .error (.fault .malformed)
        | .counted => fail error
      else do
        ofFault (Document.endOf ending)
        return found : Read α) = .ok value) : found = value := by
  split at h
  · cases surplus with
    | malformed => cases h
    | counted => exact absurd h fail_ne_ok
  · obtain ⟨_, _, h⟩ := bind_eq_ok.mp h
    exact Except.ok.inj h

theorem finish_of_record_array {surplus : Surplus} {items : List Document}
    {ending : Option Fault} {value : α}
    (h : record shape surplus (.array items ending) = .ok value) :
    ∃ s left, shape.takeItems shape.draft shape.fields items = .ok (s, left) ∧
      shape.finish s = .ok value := by
  simp only [record] at h
  obtain ⟨⟨s, left⟩, hitems, h⟩ := bind_eq_ok.mp h
  refine ⟨s, left, hitems, ?_⟩
  -- A short array is checked to its end before the record is finished, any other one after.
  cases hfinish : shape.finish s with
  | error name =>
    simp only [hfinish] at h
    split at h
    · obtain ⟨_, _, h⟩ := bind_eq_ok.mp h
      exact absurd h fail_ne_ok
    · exact absurd h fail_ne_ok
  | ok found =>
    simp only [hfinish] at h
    split at h
    · obtain ⟨_, _, h⟩ := bind_eq_ok.mp h
      rw [eq_of_no_items_left h]
    · rw [eq_of_no_items_left h]

/-- A record that is read is finished from a draft, however it is written. -/
theorem exists_drafted {surplus : Surplus} {d : Document} {value : α}
    (h : record shape surplus d = .ok value) :
    ∃ s, shape.Drafted s ∧ shape.finish s = .ok value := by
  cases d with
  | object entries ending =>
    obtain ⟨_, state, hmembers, hfinish⟩ := record_object_eq_ok.mp h
    have hs : shape.Drafted state.1 := eachMember_keeps
      (fun _ _ _ _ => takeMember_drafted) hmembers .draft
    exact ⟨state.1, hs, hfinish⟩
  | array items ending =>
    obtain ⟨s, left, hitems, hfinish⟩ := finish_of_record_array h
    exact ⟨s, takeItems_drafted hitems .draft, hfinish⟩
  | _ =>
    rw [record] at h
    · exact absurd h wrongType_ne_ok
    all_goals exact nofun

/-! ## Objects of distinct known names -/

/-- Takes in members one after the other. -/
def takeFields (shape : Shape σ α) (s : σ) : Fields → Read σ
  | [] => .ok s
  | (name, value) :: rest => do
    let s ← shape.take s name (.ofJson value)
    takeFields shape s rest

theorem takeFields_cons {name : String} {value : Json} {rest : Fields} :
    shape.takeFields s ((name, value) :: rest) = .ok s' ↔
      ∃ between, shape.take s name (.ofJson value) = .ok between ∧
        shape.takeFields between rest = .ok s' := by
  rw [takeFields, bind_eq_ok]

theorem eachMember_takeMember {seen : List String} {fs : Fields} (hdistinct : fs.Distinct)
    (hknown : ∀ name ∈ fs.names, name ∈ shape.fields) (hnew : ∀ name ∈ fs.names, name ∉ seen) :
    (eachMember shape.takeMember (s, seen) (Document.ofMembers fs)).map Prod.fst =
      shape.takeFields s fs := by
  induction fs generalizing s seen with
  | nil => rfl
  | cons field fs ih =>
    obtain ⟨name, value⟩ := field
    have hfield : name ∈ shape.fields := hknown name List.mem_cons_self
    have hunseen : name ∉ seen := hnew name List.mem_cons_self
    have hnodup := List.nodup_cons.mp hdistinct
    have htake : shape.takeMember (s, seen) name (.ofJson value) =
        (shape.take s name (.ofJson value)).map fun s => (s, name :: seen) := by
      rw [takeMember, if_pos (by simpa using hfield), if_neg (by simpa using hunseen)]
      rfl
    rw [Document.ofMembers, eachMember, takeFields]
    simp only [Document.name, ofFault, Except.mapError, bind, Except.bind, htake]
    cases shape.take s name (.ofJson value) with
    | error e => rfl
    | ok between =>
      refine ih hnodup.2 (fun other hother => hknown other (List.mem_cons_of_mem _ hother)) ?_
      intro other hother hseen
      rcases List.mem_cons.mp hseen with rfl | hseen
      · exact hnodup.1 hother
      · exact hnew other (List.mem_cons_of_mem _ hother) hseen

theorem record_object {surplus : Surplus} {fs : Fields} {value : α} (hdistinct : fs.Distinct)
    (hknown : ∀ name ∈ fs.names, name ∈ shape.fields) :
    record shape surplus (.ofJson (.object fs)) = .ok value ↔
      ∃ s, shape.takeFields shape.draft fs = .ok s ∧ shape.finish s = .ok value := by
  have htake : (eachMember shape.takeMember (shape.draft, []) (Document.ofMembers fs)).map
      Prod.fst = shape.takeFields shape.draft fs :=
    eachMember_takeMember hdistinct hknown fun _ _ => List.not_mem_nil
  rw [← htake, Document.ofJson, record_object_eq_ok]
  simp only [map_eq_ok, true_and]
  constructor
  · rintro ⟨state, hmembers, hfinish⟩
    exact ⟨state.1, ⟨state, hmembers, rfl⟩, hfinish⟩
  · rintro ⟨_, ⟨state, hmembers, rfl⟩, hfinish⟩
    exact ⟨state, hmembers, hfinish⟩

theorem known_of_eachMember (hclosed : shape.closed = true) {fs : Fields}
    {state state' : σ × List String}
    (h : eachMember shape.takeMember state (Document.ofMembers fs) = .ok state') :
    ∀ name ∈ fs.names, name ∈ shape.fields := by
  induction fs generalizing state with
  | nil => exact fun _ => nofun
  | cons field fs ih =>
    obtain ⟨_, hname, between, htake, hrest⟩ := eachMember_cons.mp h
    obtain rfl := Document.string.inj hname
    intro name hmem
    rcases List.mem_cons.mp hmem with rfl | hmem
    · by_contra hunknown
      rw [takeMember, if_neg (by simpa using hunknown), if_pos hclosed] at htake
      exact fail_ne_ok htake
    · exact ih hrest name hmem

/-- A record that takes no other fields names all that it was given. -/
theorem known_of_record {surplus : Surplus} {fs : Fields} {value : α}
    (hclosed : shape.closed = true)
    (h : record shape surplus (.ofJson (.object fs)) = .ok value) :
    ∀ name ∈ fs.names, name ∈ shape.fields := by
  obtain ⟨_, _, hmembers, _⟩ := record_object_eq_ok.mp h
  exact known_of_eachMember hclosed hmembers

/-- After members are taken in, a slot holds what its reader makes of the member of its name,
or what it held before if there is none. -/
theorem Slots.held_takeFields (hslots : shape.Slots slots) (hslot : slot ∈ slots) {fs : Fields}
    (hdistinct : fs.Distinct) (h : shape.takeFields s fs = .ok s') :
    ∃ found, fs.read? slot.name slot.read = .ok found ∧
      slot.held s' = found.or (slot.held s) := by
  induction fs generalizing s with
  | nil =>
    obtain rfl := Except.ok.inj h
    exact ⟨none, rfl, rfl⟩
  | cons field fs ih =>
    obtain ⟨name, value⟩ := field
    have hnodup := List.nodup_cons.mp hdistinct
    obtain ⟨between, htake, hrest⟩ := takeFields_cons.mp h
    obtain ⟨found, hfound, hheld⟩ := ih hnodup.2 hrest
    by_cases hname : name = slot.name
    · subst hname
      obtain ⟨x, hx, hbetween⟩ := hslots.take_own hslot htake
      have hnone : found = none := by
        rw [Fields.read?_of_none (Fields.get?_eq_none_iff.mpr hnodup.1)] at hfound
        exact (Except.ok.inj hfound).symm
      refine ⟨some x, ?_, ?_⟩
      · rw [Fields.read?_cons, if_pos rfl, hx]
        rfl
      · rw [hheld, hnone, hbetween]
        rfl
    · have hsame : slot.held between = slot.held s :=
        (hslots.others _ _ _ _ htake slot hslot).resolve_left (Ne.symm hname)
      refine ⟨found, ?_, ?_⟩
      · rw [Fields.read?_cons, if_neg hname, hfound]
      · rw [hheld, hsame]

theorem Slots.read?_of_takeFields (hslots : shape.Slots slots) (hslot : slot ∈ slots)
    {fs : Fields} (hdistinct : fs.Distinct) (h : shape.takeFields shape.draft fs = .ok s') :
    fs.read? slot.name slot.read = .ok (slot.held s') := by
  obtain ⟨found, hfound, hheld⟩ := hslots.held_takeFields hslot hdistinct h
  rw [hslots.draft slot hslot, Option.or_none] at hheld
  rw [hfound, hheld]

theorem Slots.exists_takeFields (hslots : shape.Slots slots) {fs : Fields}
    (hdistinct : fs.Distinct) (hknown : ∀ name ∈ fs.names, name ∈ shape.fields)
    (hread : ∀ slot ∈ slots, ∃ found, fs.read? slot.name slot.read = .ok found) (s : σ) :
    ∃ s', shape.takeFields s fs = .ok s' := by
  induction fs generalizing s with
  | nil => exact ⟨s, rfl⟩
  | cons field fs ih =>
    obtain ⟨name, value⟩ := field
    have hnodup := List.nodup_cons.mp hdistinct
    have hmem : name ∈ slots.map Slot.name := hslots.names ▸ hknown name List.mem_cons_self
    obtain ⟨slot, hslot, rfl⟩ := List.mem_map.mp hmem
    obtain ⟨found, hfound⟩ := hread slot hslot
    rw [Fields.read?_cons, if_pos rfl] at hfound
    obtain ⟨x, hx, _⟩ := map_eq_ok.mp hfound
    obtain ⟨between, hbetween⟩ := hslots.exists_take hslot hx s
    have hrest : ∀ other ∈ slots,
        ∃ found, Fields.read? fs other.name other.read = .ok found := by
      intro other hother
      by_cases hname : slot.name = other.name
      · exact ⟨none, Fields.read?_of_none
          (Fields.get?_eq_none_iff.mpr fun h => hnodup.1 (hname ▸ h))⟩
      · obtain ⟨found, hfound⟩ := hread other hother
        rw [Fields.read?_cons, if_neg hname] at hfound
        exact ⟨found, hfound⟩
    obtain ⟨s', hs'⟩ := ih hnodup.2
      (fun other hother => hknown other (List.mem_cons_of_mem _ hother)) hrest between
    exact ⟨s', takeFields_cons.mpr ⟨between, hbetween, hs'⟩⟩

/-- A record that is read from an object of distinct known names is finished from a draft that
holds in each slot what its reader makes of the member. -/
theorem Slots.exists_finish_of_record (hslots : shape.Slots slots) {surplus : Surplus}
    {fs : Fields} {value : α} (hdistinct : fs.Distinct)
    (hknown : ∀ name ∈ fs.names, name ∈ shape.fields)
    (h : record shape surplus (.ofJson (.object fs)) = .ok value) :
    ∃ s, (∀ slot ∈ slots, fs.read? slot.name slot.read = .ok (slot.held s)) ∧
      shape.finish s = .ok value := by
  obtain ⟨s, htake, hfinish⟩ := (record_object hdistinct hknown).mp h
  exact ⟨s, fun slot hslot => hslots.read?_of_takeFields hslot hdistinct htake, hfinish⟩

/-- An object of distinct known names that the readers of the slots accept is read as what is
finished from a draft that holds what they make of its members. -/
theorem Slots.exists_draft (hslots : shape.Slots slots) {fs : Fields} (hdistinct : fs.Distinct)
    (hknown : ∀ name ∈ fs.names, name ∈ shape.fields)
    (hread : ∀ slot ∈ slots, ∃ found, fs.read? slot.name slot.read = .ok found) :
    ∃ s, (∀ slot ∈ slots, fs.read? slot.name slot.read = .ok (slot.held s)) ∧
      ∀ surplus value, shape.finish s = .ok value →
        record shape surplus (.ofJson (.object fs)) = .ok value := by
  obtain ⟨s, htake⟩ := hslots.exists_takeFields hdistinct hknown hread shape.draft
  refine ⟨s, fun slot hslot => hslots.read?_of_takeFields hslot hdistinct htake, ?_⟩
  intro surplus value hfinish
  exact (record_object hdistinct hknown).mpr ⟨s, htake, hfinish⟩

theorem Slots.record_eq_ok (hslots : shape.Slots slots) {surplus : Surplus} {fs : Fields}
    {value : α} (hdistinct : fs.Distinct) (hknown : ∀ name ∈ fs.names, name ∈ shape.fields)
    (hread : ∀ slot ∈ slots, ∃ found, fs.read? slot.name slot.read = .ok found)
    (hfinish : ∀ s, (∀ slot ∈ slots, fs.read? slot.name slot.read = .ok (slot.held s)) →
      shape.finish s = .ok value) :
    record shape surplus (.ofJson (.object fs)) = .ok value := by
  obtain ⟨s, hs, hrecord⟩ := hslots.exists_draft hdistinct hknown hread
  exact hrecord surplus value (hfinish s hs)

/-- What is written of a record names its fields in their order. -/
theorem Slots.record_eq_ok_of_sublist (hslots : shape.Slots slots) {surplus : Surplus}
    {fs : Fields} {value : α} (hnames : fs.names.Sublist shape.fields)
    (hread : ∀ slot ∈ slots, ∃ found, fs.read? slot.name slot.read = .ok found)
    (hfinish : ∀ s, (∀ slot ∈ slots, fs.read? slot.name slot.read = .ok (slot.held s)) →
      shape.finish s = .ok value) :
    record shape surplus (.ofJson (.object fs)) = .ok value :=
  hslots.record_eq_ok (hslots.distinct.sublist hnames) (fun _ hname => hnames.subset hname) hread
    hfinish

/-- A record of one field is read from what its reader reads. -/
theorem Slots.record_single (hslots : shape.Slots [slot]) {surplus : Surplus} {written : Json}
    {x : slot.β} {value : α} (hread : slot.read (.ofJson written) = .ok x)
    (hfinish : ∀ s, slot.held s = some x → shape.finish s = .ok value) :
    record shape surplus (.ofJson (.object [(slot.name, written)])) = .ok value := by
  have hfound : Fields.read? [(slot.name, written)] slot.name slot.read = .ok (some x) := by
    rw [Fields.read?_cons, if_pos rfl, hread]
    rfl
  have hnames : Fields.names [(slot.name, written)] = shape.fields := hslots.names
  refine hslots.record_eq_ok_of_sublist (hnames ▸ .refl _) ?_ ?_
  · exact List.forall_mem_singleton.mpr ⟨_, hfound⟩
  · intro s hs
    have hheld := hs slot List.mem_cons_self
    rw [hfound] at hheld
    exact hfinish s (Except.ok.inj hheld).symm

end Shape

end Read

end Rollout
