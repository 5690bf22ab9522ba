import Mathlib.Data.List.Forall2
import Rollout.Proofs.Json.Tidy
import Rollout.Proofs.Table
import Rollout.Reading.Basic

/-!
# What readers accept

For each reader the documents that it accepts and what it makes of them. A reader is faithful to
a way of writing if it reads back what it gave before; readers of lists and tables are so if
those of their items are.
-/

namespace Rollout

/-- What a check makes of a string. -/
def Json.checked? {ε α : Type} (check : String → Except ε α) : Json → Option α
  | .string text => (check text).toOption
  | _ => none

namespace Read

variable {α β σ : Type}

theorem map_eq_ok {ε : Type} {f : α → β} {result : Except ε α} {b : β} :
    result.map f = .ok b ↔ ∃ a, result = .ok a ∧ f a = b := by
  cases result <;> simp [Except.map]

theorem ofFault_eq_ok {result : Except Fault α} {a : α} :
    ofFault result = .ok a ↔ result = .ok a := by
  cases result <;> simp [ofFault, Except.mapError]

theorem fail_ne_ok {error : DataError} {a : α} : (fail error : Read α) ≠ .ok a := nofun

theorem wrongType_ne_ok {d : Document} {expected : String} {a : α} :
    (wrongType d expected : Read α) ≠ .ok a := by
  cases d <;> exact nofun

theorem json_eq_ok {d : Document} {value : Json} : json d = .ok value ↔ d.toJson = .ok value :=
  ofFault_eq_ok

theorem string_eq_ok {expected : String} {d : Document} {s : String} :
    string expected d = .ok s ↔ d = .string s := by
  cases d <;> simp [string, wrongType_ne_ok]

theorem bool_eq_ok {d : Document} {b : Bool} : bool d = .ok b ↔ d = .bool b := by
  cases d <;> simp [bool, wrongType_ne_ok]

theorem parsed_eq_ok {ε : Type} {check : String → Except ε α} {cause : ε → DataError}
    {d : Document} {value : α} :
    parsed check cause d = .ok value ↔ ∃ s, d = .string s ∧ check s = .ok value := by
  rw [parsed, bind_eq_ok]
  simp only [string_eq_ok]
  refine exists_congr fun s => and_congr_right fun _ => ?_
  cases check s with
  | error e => simp [fail_ne_ok]
  | ok found => simp [pure, Except.pure]

theorem optional_eq_ok {read : Document → Read α} {d : Document} {found : Option α} :
    optional read d = .ok found ↔
      d = .null ∧ found = none ∨ d ≠ .null ∧ ∃ value, read d = .ok value ∧ some value = found := by
  cases d with
  | null => simp [optional, eq_comm]
  | _ => simp [optional, map_eq_ok]

theorem eachItem_eq_ok {read : Document → Read α} {items : List Document} {values : List α} :
    eachItem read items = .ok values ↔
      List.Forall₂ (fun item value => read item = .ok value) items values := by
  induction items generalizing values with
  | nil =>
    rw [List.forall₂_nil_left_iff, eachItem, Except.ok.injEq, eq_comm]
  | cons item items ih =>
    rw [eachItem, bind_eq_ok, List.forall₂_cons_left_iff]
    refine exists_congr fun value => ?_
    rw [bind_eq_ok]
    constructor
    · rintro ⟨hvalue, rest, hrest, hvalues⟩
      exact ⟨rest, hvalue, ih.mp hrest, (Except.ok.inj hvalues).symm⟩
    · rintro ⟨rest, hvalue, hrest, rfl⟩
      exact ⟨hvalue, rest, ih.mpr hrest, rfl⟩

theorem list_eq_ok {read : Document → Read α} {d : Document} {values : List α} :
    list read d = .ok values ↔ ∃ items, d = .array items none ∧
      List.Forall₂ (fun item value => read item = .ok value) items values := by
  cases d with
  | array items ending =>
    simp only [list, bind_eq_ok, ofFault_eq_ok, Document.endOf_eq_ok, eachItem_eq_ok]
    constructor
    · rintro ⟨found, hfound, _, hending, hvalues⟩
      obtain rfl := Except.ok.inj hvalues
      exact ⟨items, by rw [hending], hfound⟩
    · rintro ⟨found, hd, hfound⟩
      obtain ⟨rfl, rfl⟩ := Document.array.inj hd
      exact ⟨values, hfound, (), rfl, rfl⟩
  | _ => simp [list, wrongType_ne_ok]

theorem members_eq_ok {step : σ → String → Document → Read σ} {s s' : σ} {d : Document} :
    members step s d = .ok s' ↔
      ∃ entries, d = .object entries none ∧ eachMember step s entries = .ok s' := by
  cases d with
  | object entries ending =>
    simp only [members, bind_eq_ok, ofFault_eq_ok, Document.endOf_eq_ok]
    constructor
    · rintro ⟨found, hfound, _, hending, hs⟩
      obtain rfl := Except.ok.inj hs
      exact ⟨entries, by rw [hending], hfound⟩
    · rintro ⟨found, hd, hfound⟩
      obtain ⟨rfl, rfl⟩ := Document.object.inj hd
      exact ⟨s', hfound, (), rfl, rfl⟩
  | _ => simp [members, wrongType_ne_ok]

theorem eachMember_nil {step : σ → String → Document → Read σ} {s s' : σ} :
    eachMember step s [] = .ok s' ↔ s = s' := by
  rw [eachMember, Except.ok.injEq]

theorem eachMember_cons {step : σ → String → Document → Read σ} {s s' : σ}
    {n d : Document} {rest : List (Document × Document)} :
    eachMember step s ((n, d) :: rest) = .ok s' ↔ ∃ name, n = .string name ∧
      ∃ between, step s name d = .ok between ∧ eachMember step between rest = .ok s' := by
  simp only [eachMember, bind_eq_ok, ofFault_eq_ok, Document.name_eq_ok]

/-- What every member keeps holds when all are taken in. -/
theorem eachMember_keeps {step : σ → String → Document → Read σ} {holds : σ → Prop}
    (hstep : ∀ s name d s', holds s → step s name d = .ok s' → holds s')
    {entries : List (Document × Document)} {s s' : σ} (h : eachMember step s entries = .ok s')
    (hs : holds s) : holds s' := by
  induction entries generalizing s with
  | nil => exact eachMember_nil.mp h ▸ hs
  | cons entry entries ih =>
    obtain ⟨name, _, between, hbetween, hrest⟩ := eachMember_cons.mp h
    exact ih hrest (hstep s name _ between hs hbetween)

/-! ## Tables and members -/

theorem eachMember_insert {read : Document → Read α} {entries : List (Document × Document)}
    {t t' : Table α} :
    eachMember (fun t name d => do return t.insert name (← read d)) t entries = .ok t' ↔
      ∃ pairs : List (String × α), List.Forall₂ (fun entry pair =>
        entry.1 = .string pair.1 ∧ read entry.2 = .ok pair.2) entries pairs ∧
          t' = pairs.foldl (fun t pair => t.insert pair.1 pair.2) t := by
  induction entries generalizing t with
  | nil =>
    rw [eachMember_nil]
    constructor
    · rintro rfl
      exact ⟨[], .nil, rfl⟩
    · rintro ⟨pairs, hpairs, rfl⟩
      cases hpairs
      rfl
  | cons entry entries ih =>
    rw [eachMember_cons]
    constructor
    · rintro ⟨name, hname, between, hbetween, hrest⟩
      obtain ⟨value, hvalue, hinsert⟩ := bind_eq_ok.mp hbetween
      obtain rfl := Except.ok.inj hinsert
      obtain ⟨pairs, hpairs, rfl⟩ := ih.mp hrest
      exact ⟨(name, value) :: pairs, .cons ⟨hname, hvalue⟩ hpairs, rfl⟩
    · rintro ⟨_, hpairs, rfl⟩
      cases hpairs with
      | cons hpair hpairs =>
        exact ⟨_, hpair.1, _, bind_eq_ok.mpr ⟨_, hpair.2, rfl⟩, ih.mpr ⟨_, hpairs, rfl⟩⟩

theorem table_eq_ok {read : Document → Read α} {d : Document} {t : Table α} :
    table read d = .ok t ↔ ∃ entries, d = .object entries none ∧
      ∃ pairs : List (String × α), List.Forall₂ (fun entry pair =>
        entry.1 = .string pair.1 ∧ read entry.2 = .ok pair.2) entries pairs ∧
          t = .ofList pairs := by
  rw [table, members_eq_ok]
  simp only [eachMember_insert]
  rfl

private theorem eachMember_put {entries : List (Document × Document)} {before : Fields} :
    eachMember (fun fs name d => do return Fields.put name (← json d) fs) before entries =
      ofFault (Document.toMembers before entries) := by
  induction entries generalizing before with
  | nil => rfl
  | cons entry entries ih =>
    obtain ⟨n, d⟩ := entry
    rw [eachMember, Document.toMembers, json]
    cases n.name with
    | error e => rfl
    | ok name =>
      cases d.toJson with
      | error e => rfl
      | ok value => exact ih

theorem fields_eq_ok {d : Document} {fs : Fields} :
    fields d = .ok fs ↔ d.toJson = .ok (.object fs) := by
  rw [fields, members_eq_ok]
  simp only [eachMember_put, ofFault_eq_ok]
  cases d with
  | object entries ending =>
    rw [Document.toJson, bind_eq_ok]
    constructor
    · rintro ⟨found, hd, hfound⟩
      obtain ⟨rfl, rfl⟩ := Document.object.inj hd
      exact ⟨fs, hfound, rfl⟩
    · rintro ⟨found, hfound, h⟩
      obtain ⟨_, hending, h⟩ := bind_eq_ok.mp h
      obtain rfl := Document.endOf_eq_ok.mp hending
      obtain rfl := Json.object.inj (Except.ok.inj h)
      exact ⟨entries, rfl, hfound⟩
  | array items ending =>
    rw [Document.toJson, bind_eq_ok]
    constructor
    · rintro ⟨_, hd, _⟩
      cases hd
    · rintro ⟨values, _, h⟩
      obtain ⟨_, _, h⟩ := bind_eq_ok.mp h
      cases Except.ok.inj h
  | _ => simp [Document.toJson]

/-! ## What readers make of values -/

section Values

variable {read : Document → Read α} {value : Json}

private theorem exists_forall₂_iff {β γ : Type} {R : β → γ → Prop} {xs : List β} :
    (∃ ys, List.Forall₂ R xs ys) ↔ ∀ x ∈ xs, ∃ y, R x y := by
  induction xs with
  | nil => simp
  | cons x xs ih =>
    rw [List.forall_mem_cons, ← ih]
    constructor
    · rintro ⟨_, h⟩
      cases h with
      | cons hx hxs => exact ⟨⟨_, hx⟩, _, hxs⟩
    · rintro ⟨⟨y, hx⟩, ys, hxs⟩
      exact ⟨y :: ys, .cons hx hxs⟩

theorem parsed_ofJson_eq_ok {ε : Type} {check : String → Except ε α} {cause : ε → DataError}
    {x : α} :
    parsed check cause (.ofJson value) = .ok x ↔ value.checked? check = some x := by
  rw [parsed_eq_ok]
  cases value with
  | string text =>
    rw [Document.ofJson, Json.checked?]
    cases hcheck : check text with
    | error e => simp [hcheck, Except.toOption]
    | ok found => simp [hcheck, Except.toOption]
  | _ => simp [Document.ofJson, Json.checked?]

theorem toOption_parsed_ofJson {ε : Type} {check : String → Except ε α} {cause : ε → DataError}
    (value : Json) :
    (parsed check cause (.ofJson value)).toOption = value.checked? check := by
  cases h : parsed check cause (.ofJson value) with
  | ok x =>
    rw [parsed_ofJson_eq_ok.mp h]
    rfl
  | error e =>
    cases hvalue : value.checked? check with
    | none => rfl
    | some x =>
      rw [parsed_ofJson_eq_ok.mpr hvalue] at h
      cases h

theorem bool_ofJson_eq_ok {b : Bool} :
    Read.bool (.ofJson value) = .ok b ↔ value = .bool b := by
  rw [bool_eq_ok]
  cases value <;> simp [Document.ofJson]

theorem string_ofJson_eq_ok {expected text : String} :
    Read.string expected (.ofJson value) = .ok text ↔ value = .string text := by
  rw [string_eq_ok]
  cases value <;> simp [Document.ofJson]

theorem list_ofJson_eq_ok {values : List α} :
    list read (.ofJson value) = .ok values ↔ ∃ items, value = .array items ∧
      List.Forall₂ (fun item x => read (.ofJson item) = .ok x) items values := by
  rw [list_eq_ok]
  cases value with
  | array items => simp [Document.ofJson, Document.ofItems_eq_map]
  | _ => simp [Document.ofJson]

theorem table_ofJson_eq_ok {t : Table α} :
    table read (.ofJson value) = .ok t ↔ ∃ members : Fields, value = .object members ∧
      ∃ pairs, List.Forall₂ (fun member pair =>
        member.1 = pair.1 ∧ read (.ofJson member.2) = .ok pair.2) members pairs ∧
          t = .ofList pairs := by
  rw [table_eq_ok]
  cases value with
  | object members => simp [Document.ofJson, Document.ofMembers_eq_map]
  | _ => simp [Document.ofJson]

theorem exists_list_ofJson :
    (∃ values, list read (.ofJson value) = .ok values) ↔
      ∃ items, value = .array items ∧ ∀ item ∈ items, ∃ x, read (.ofJson item) = .ok x := by
  simp only [list_ofJson_eq_ok, ← exists_forall₂_iff]
  constructor
  · rintro ⟨values, items, hvalue, hitems⟩
    exact ⟨items, hvalue, values, hitems⟩
  · rintro ⟨items, hvalue, values, hitems⟩
    exact ⟨values, items, hvalue, hitems⟩

theorem exists_table_ofJson :
    (∃ t, table read (.ofJson value) = .ok t) ↔ ∃ members : Fields, value = .object members ∧
      ∀ member ∈ members, ∃ x, read (.ofJson member.2) = .ok x := by
  simp only [table_ofJson_eq_ok]
  have hpair : ∀ member : String × Json, (∃ x, read (.ofJson member.2) = .ok x) ↔
      ∃ pair : String × α, member.1 = pair.1 ∧ read (.ofJson member.2) = .ok pair.2 := by
    intro member
    constructor
    · rintro ⟨x, hx⟩
      exact ⟨(member.1, x), rfl, hx⟩
    · rintro ⟨pair, _, hx⟩
      exact ⟨pair.2, hx⟩
  simp only [hpair, ← exists_forall₂_iff]
  constructor
  · rintro ⟨_, members, hvalue, pairs, hpairs, _⟩
    exact ⟨members, hvalue, pairs, hpairs⟩
  · rintro ⟨members, hvalue, pairs, hpairs⟩
    exact ⟨_, members, hvalue, pairs, hpairs, rfl⟩

/-- The last member of a name gives the value of the name. -/
theorem get?_of_table_ofJson {members : Fields} {t : Table α}
    (h : table read (.ofJson (.object members)) = .ok t) (name : String) :
    t.get? name = (members.last? name).bind fun value => (read (.ofJson value)).toOption := by
  obtain ⟨_, hobject, pairs, hpairs, rfl⟩ := table_ofJson_eq_ok.mp h
  obtain rfl := Json.object.inj hobject
  rw [Table.get?_ofList, Fields.last?, Fields.get?]
  have hreverse := List.forall₂_reverse_iff.mpr hpairs
  generalize members.reverse = members at hreverse
  generalize pairs.reverse = pairs at hreverse
  induction hreverse with
  | nil => rfl
  | @cons member pair members pairs hpair _ ih =>
    obtain ⟨hname, hvalue⟩ := hpair
    rw [Table.lookup_cons, Table.lookup_cons, ih, ← hname]
    by_cases h : member.1 = name
    · rw [if_pos h, if_pos h, Option.bind_some, hvalue]
      rfl
    · rw [if_neg h, if_neg h]

end Values

/-! ## Faithful readers -/

/-- What a reader gave is read back from its written form. -/
def Faithful (read : Document → Read α) (write : α → Json) : Prop :=
  ∀ d value, read d = .ok value → read (.ofJson (write value)) = .ok value

/-- What was found of a value, or what stands for it if nothing was, is read back. -/
theorem Faithful.getD {read : Document → Read α} {write : α → Json}
    (h : Faithful read write) {found : Option α}
    (hfound : ∀ x, found = some x → ∃ d, read d = .ok x)
    {unsaid : α} (hunsaid : read (.ofJson (write unsaid)) = .ok unsaid) :
    read (.ofJson (write (found.getD unsaid))) = .ok (found.getD unsaid) := by
  cases found with
  | none => exact hunsaid
  | some x =>
    obtain ⟨d, hd⟩ := hfound x rfl
    exact h d x hd

theorem fields_faithful : Faithful fields Json.object := by
  intro d fs h
  exact fields_eq_ok.mpr
    (Document.toJson_ofJson _ (Document.tidy_of_toJson d (fields_eq_ok.mp h)))

theorem parsed_faithful {ε : Type} {check : String → Except ε α} {cause : ε → DataError}
    {text : α → String} (h : ∀ s value, check s = .ok value → check (text value) = .ok value) :
    Faithful (parsed check cause) fun value => .string (text value) := by
  intro d value hvalue
  obtain ⟨s, _, hs⟩ := parsed_eq_ok.mp hvalue
  exact parsed_eq_ok.mpr ⟨text value, rfl, h s value hs⟩

theorem list_ofJson {read : Document → Read α} {write : α → Json} {values : List α}
    (h : ∀ value ∈ values, read (.ofJson (write value)) = .ok value) :
    list read (.ofJson (.array (values.map write))) = .ok values := by
  refine list_eq_ok.mpr ⟨_, rfl, ?_⟩
  rw [Document.ofItems_eq_map, List.map_map, List.forall₂_map_left_iff]
  exact List.forall₂_same.mpr h

theorem list_faithful {read : Document → Read α} {write : α → Json} (h : Faithful read write) :
    Faithful (list read) fun values => .array (values.map write) := by
  intro d values hvalues
  obtain ⟨items, _, hitems⟩ := list_eq_ok.mp hvalues
  refine list_ofJson fun value hvalue => ?_
  obtain ⟨n, hn, rfl⟩ := List.mem_iff_getElem.mp hvalue
  exact h _ _ (hitems.get (hitems.length_eq ▸ hn) hn)

theorem table_ofJson {read : Document → Read α} {write : α → Json} {t : Table α}
    (h : ∀ entry ∈ t.entries, read (.ofJson (write entry.2)) = .ok entry.2) :
    table read (.ofJson (.object (t.mapValues write).entries)) = .ok t := by
  refine table_eq_ok.mpr ⟨_, rfl, t.entries, ?_, t.ofList_entries.symm⟩
  rw [Document.ofMembers_eq_map, Table.mapValues, List.map_map, List.forall₂_map_left_iff]
  exact List.forall₂_same.mpr fun entry hentry => ⟨rfl, h entry hentry⟩

theorem table_faithful {read : Document → Read α} {write : α → Json} (h : Faithful read write) :
    Faithful (table read) fun t => .object (t.mapValues write).entries := by
  intro d t ht
  obtain ⟨entries, _, pairs, hpairs, rfl⟩ := table_eq_ok.mp ht
  refine table_ofJson fun entry hentry => ?_
  obtain ⟨n, hn, rfl⟩ := List.mem_iff_getElem.mp (Table.mem_of_mem_ofList hentry)
  exact h _ _ (hpairs.get (hpairs.length_eq ▸ hn) hn).2

end Read

end Rollout
