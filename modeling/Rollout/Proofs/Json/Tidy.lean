import Rollout.Json.Document
import Rollout.Proofs.Json.Fields

/-!
# Values as documents

What is read from a document names each member once, at every depth, and such a value is read
back from its own document as it is.
-/

namespace Rollout

theorem bind_eq_ok {ε α β : Type} {x : Except ε α} {f : α → Except ε β} {b : β} :
    (x >>= f) = .ok b ↔ ∃ a, x = .ok a ∧ f a = .ok b := by
  cases x with
  | error e => simp [bind, Except.bind]
  | ok a => simp [bind, Except.bind]

namespace Json

theorem TidyMembers.put {members : Fields} {name : String} {value : Json}
    (h : TidyMembers members) (hvalue : value.Tidy) : TidyMembers (members.put name value) := by
  induction members with
  | nil => exact ⟨hvalue, trivial⟩
  | cons member members ih =>
    rw [Fields.put]
    split
    · exact ⟨hvalue, h.2⟩
    · exact ⟨h.1, ih h.2⟩

theorem tidyMembers_iff {members : Fields} :
    TidyMembers members ↔ ∀ member ∈ members, member.2.Tidy := by
  induction members with
  | nil => simp [TidyMembers]
  | cons member members ih => rw [TidyMembers, ih, List.forall_mem_cons]

theorem tidyItems_iff {items : List Json} : TidyItems items ↔ ∀ item ∈ items, item.Tidy := by
  induction items with
  | nil => simp [TidyItems]
  | cons item items ih => rw [TidyItems, ih, List.forall_mem_cons]

end Json

namespace Document

theorem ofItems_eq_map (items : List Json) : ofItems items = items.map ofJson := by
  induction items with
  | nil => rfl
  | cons item items ih => rw [ofItems, ih, List.map_cons]

theorem ofMembers_eq_map (members : Fields) :
    ofMembers members = members.map fun member => (.string member.1, ofJson member.2) := by
  induction members with
  | nil => rfl
  | cons member members ih => rw [ofMembers, ih, List.map_cons]

theorem endOf_eq_ok {ending : Option Fault} {u : Unit} :
    endOf ending = .ok u ↔ ending = none := by
  cases ending <;> simp [endOf]

theorem name_eq_ok {d : Document} {name : String} : d.name = .ok name ↔ d = .string name := by
  cases d <;> simp [Document.name]

/-! ## What is read is tidy -/

mutual

theorem tidy_of_toJson : ∀ (d : Document) {value : Json}, d.toJson = .ok value → value.Tidy
  | .null, value, h => by
    obtain rfl := Except.ok.inj h
    trivial
  | .bool _, value, h => by
    obtain rfl := Except.ok.inj h
    trivial
  | .number _, value, h => by
    obtain rfl := Except.ok.inj h
    trivial
  | .string _, value, h => by
    obtain rfl := Except.ok.inj h
    trivial
  | .array items ending, value, h => by
    obtain ⟨values, hvalues, h⟩ := bind_eq_ok.mp h
    obtain ⟨_, _, h⟩ := bind_eq_ok.mp h
    obtain rfl := Except.ok.inj h
    exact tidy_of_toItems items hvalues
  | .object members ending, value, h => by
    obtain ⟨values, hvalues, h⟩ := bind_eq_ok.mp h
    obtain ⟨_, _, h⟩ := bind_eq_ok.mp h
    obtain rfl := Except.ok.inj h
    exact tidy_of_toMembers members Fields.distinct_nil trivial hvalues
  | .unreadable, _, h => nomatch h
  | .broken _ _ _, _, h => nomatch h

theorem tidy_of_toItems : ∀ (items : List Document) {values : List Json},
    toItems items = .ok values → Json.TidyItems values
  | [], values, h => by
    obtain rfl := Except.ok.inj h
    trivial
  | d :: ds, values, h => by
    obtain ⟨x, hx, h⟩ := bind_eq_ok.mp h
    obtain ⟨xs, hxs, h⟩ := bind_eq_ok.mp h
    obtain rfl := Except.ok.inj h
    exact ⟨tidy_of_toJson d hx, tidy_of_toItems ds hxs⟩

theorem tidy_of_toMembers : ∀ (members : List (Document × Document)) {before after : Fields},
    before.Distinct → Json.TidyMembers before → toMembers before members = .ok after →
      after.Distinct ∧ Json.TidyMembers after
  | [], before, after, hdistinct, htidy, h => by
    obtain rfl := Except.ok.inj h
    exact ⟨hdistinct, htidy⟩
  | (n, d) :: rest, before, after, hdistinct, htidy, h => by
    obtain ⟨key, _, h⟩ := bind_eq_ok.mp h
    obtain ⟨x, hx, h⟩ := bind_eq_ok.mp h
    exact tidy_of_toMembers rest (Fields.distinct_put hdistinct)
      (htidy.put (tidy_of_toJson d hx)) h

end

/-! ## What is tidy is read back -/

mutual

theorem toJson_ofJson : ∀ (value : Json), value.Tidy → (ofJson value).toJson = .ok value
  | .null, _ => rfl
  | .bool _, _ => rfl
  | .number _, _ => rfl
  | .string _, _ => rfl
  | .array items, h => by
    rw [ofJson, toJson, toItems_ofItems items h]
    rfl
  | .object members, h => by
    rw [ofJson, toJson, toMembers_ofMembers members [] h.2 h.1]
    rfl

theorem toItems_ofItems : ∀ (items : List Json), Json.TidyItems items →
    toItems (ofItems items) = .ok items
  | [], _ => rfl
  | item :: items, h => by
    rw [ofItems, toItems, toJson_ofJson item h.1, toItems_ofItems items h.2]
    rfl

theorem toMembers_ofMembers : ∀ (members before : Fields), Json.TidyMembers members →
    (before ++ members).Distinct → toMembers before (ofMembers members) = .ok (before ++ members)
  | [], before, _, _ => by rw [ofMembers, toMembers, List.append_nil]
  | (name, value) :: rest, before, h, hdistinct => by
    have hnew : name ∉ before.names := by
      intro hmem
      rw [Fields.distinct_iff, Fields.names_append, List.nodup_append] at hdistinct
      exact hdistinct.2.2 name hmem name List.mem_cons_self rfl
    have hrest : before ++ (name, value) :: rest = (before ++ [(name, value)]) ++ rest := by simp
    rw [ofMembers, toMembers, toJson_ofJson value h.1, hrest]
    rw [hrest] at hdistinct
    have hput := Fields.put_of_not_mem value hnew
    simp only [Document.name, bind, Except.bind, hput]
    exact toMembers_ofMembers rest _ h.2 hdistinct

end

/-! ## Every value has a document that is read -/

mutual

theorem exists_toJson : ∀ (value : Json), ∃ found, (ofJson value).toJson = .ok found
  | .null => ⟨_, rfl⟩
  | .bool _ => ⟨_, rfl⟩
  | .number _ => ⟨_, rfl⟩
  | .string _ => ⟨_, rfl⟩
  | .array items => by
    obtain ⟨found, hfound⟩ := exists_toItems items
    exact ⟨.array found, by rw [ofJson, toJson, hfound]; rfl⟩
  | .object members => by
    obtain ⟨found, hfound⟩ := exists_toMembers members []
    exact ⟨.object found, by rw [ofJson, toJson, hfound]; rfl⟩

theorem exists_toItems : ∀ (items : List Json), ∃ found, toItems (ofItems items) = .ok found
  | [] => ⟨_, rfl⟩
  | item :: items => by
    obtain ⟨x, hx⟩ := exists_toJson item
    obtain ⟨xs, hxs⟩ := exists_toItems items
    exact ⟨x :: xs, by rw [ofItems, toItems, hx, hxs]; rfl⟩

theorem exists_toMembers : ∀ (members before : Fields),
    ∃ found, toMembers before (ofMembers members) = .ok found
  | [], before => ⟨before, rfl⟩
  | (name, value) :: rest, before => by
    obtain ⟨x, hx⟩ := exists_toJson value
    obtain ⟨found, hfound⟩ := exists_toMembers rest (before.put name x)
    exact ⟨found, by rw [ofMembers, toMembers, hx]; exact hfound⟩

end

end Document

end Rollout
