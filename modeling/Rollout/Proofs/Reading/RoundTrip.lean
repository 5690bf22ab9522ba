import Rollout.Proofs.Reading.Element
import Rollout.Proofs.Reading.Endpoint

/-!
# What is written is read back

Reading forgets much of what it is given: the order of fields, fields that say what is so
anyway, array forms, unknown fields, how an index is spelled, the kinds of query parameters.
Writing has one form for each value. So what is read of a document is read back from what is
written of it, and then written in the same way again.
-/

namespace Rollout

open Read

namespace Endpoints

theorem slots_shape : shape.Slots
    [⟨"add", optional Endpoint.read, Draft.add⟩,
      ⟨"modify", optional Endpoint.read, Draft.modify⟩,
      ⟨"remove", optional Endpoint.read, Draft.remove⟩] where
  names := rfl
  distinct := by simp [shape]
  draft := by simp [shape]
  own := by
    simp only [List.forall_mem_cons, List.not_mem_nil, shape]
    refine ⟨fun s d => ?_, fun s d => ?_, fun s d => ?_, nofun⟩
    all_goals cases optional Endpoint.read d <;> rfl
  others := by
    intro s name d s' h
    simp only [shape] at h
    obtain ⟨_, _, h⟩ := bind_eq_ok.mp h
    split at h
    all_goals
      obtain rfl := Except.ok.inj h
      simp

/-- The members of what is written of endpoints. -/
def members (endpoints : Endpoints) : Fields :=
  (endpoints.add.map fun endpoint => ("add", endpoint.toJson)).toList ++
    (endpoints.modify.map fun endpoint => ("modify", endpoint.toJson)).toList ++
      (endpoints.remove.map fun endpoint => ("remove", endpoint.toJson)).toList

theorem toJson_eq (endpoints : Endpoints) : endpoints.toJson = .object endpoints.members := by
  obtain ⟨add, modify, remove⟩ := endpoints
  cases add <;> cases modify <;> cases remove <;> rfl

theorem get?_members (endpoints : Endpoints) (action : Action) :
    endpoints.members.get? action.text = (endpoints.forAction action).map Endpoint.toJson := by
  cases action <;>
    simp [members, Fields.get?_append, Fields.get?_option, Action.text, forAction]

theorem read?_members {endpoints : Endpoints} {action : Action}
    (h : ∀ endpoint, endpoints.forAction action = some endpoint →
      Endpoint.read (.ofJson endpoint.toJson) = .ok endpoint) :
    ∃ found, endpoints.members.read? action.text (optional Endpoint.read) = .ok found ∧
      found.join = endpoints.forAction action := by
  refine map_eq_ok.mp (Fields.read?_join (endpoints.get?_members action) ?_)
  intro endpoint hendpoint
  change (Endpoint.read (.ofJson endpoint.toJson)).map some = _
  rw [h endpoint hendpoint]
  rfl

theorem read_toJson {endpoints : Endpoints}
    (h : ∀ action endpoint, endpoints.forAction action = some endpoint →
      Endpoint.read (.ofJson endpoint.toJson) = .ok endpoint) :
    (Endpoints.read (.ofJson endpoints.toJson)).map Prod.fst = .ok endpoints := by
  have hnames : endpoints.members.names.Sublist shape.fields := by
    simp only [members, Fields.names_append]
    exact ((Fields.names_option_sublist _ _).append (Fields.names_option_sublist _ _)).append
      (Fields.names_option_sublist _ _)
  obtain ⟨add, hadd, hadd'⟩ := read?_members (h .add)
  obtain ⟨modify, hmodify, hmodify'⟩ := read?_members (h .modify)
  obtain ⟨remove, hremove, hremove'⟩ := read?_members (h .remove)
  simp only [Action.text] at hadd hmodify hremove
  have hdistinct : endpoints.members.Distinct := slots_shape.distinct.sublist hnames
  have hknown : ∀ name ∈ endpoints.members.names, name ∈ shape.fields :=
    fun _ hname => hnames.subset hname
  obtain ⟨s, hs, hrecord⟩ := slots_shape.exists_draft hdistinct hknown
    (by simp [hadd, hmodify, hremove])
  simp only [List.forall_mem_cons, hadd, hmodify, hremove, Except.ok.injEq] at hs
  obtain ⟨rfl, rfl, rfl, -⟩ := hs
  -- What is found unused comes along with the endpoints and is not compared.
  have hfinish : shape.finish s = .ok (endpoints, s.unused) := by
    simp only [shape, hadd', hmodify', hremove']
    rfl
  rw [toJson_eq]
  exact map_eq_ok.mpr ⟨(endpoints, s.unused), hrecord .malformed _ hfinish, rfl⟩

theorem read_of_join {found : Option (Option Endpoint)} {endpoint : Endpoint}
    (hfound : ∀ x, found = some x → ∃ d, optional Endpoint.read d = .ok x)
    (h : found.join = some endpoint) : ∃ d, Endpoint.read d = .ok endpoint := by
  obtain ⟨d, hd⟩ := hfound (some endpoint) (Option.join_eq_some_iff.mp h)
  rcases optional_eq_ok.mp hd with ⟨_, hnone⟩ | ⟨_, value, hvalue, hsome⟩
  · cases hnone
  · exact ⟨d, Option.some.inj hsome ▸ hvalue⟩

theorem faithful :
    Faithful (fun d => (Endpoints.read d).map Prod.fst) Endpoints.toJson := by
  intro d endpoints h
  obtain ⟨⟨_, unused⟩, hread, rfl⟩ := map_eq_ok.mp h
  obtain ⟨s, hs, hfinish⟩ := Shape.exists_drafted hread
  obtain ⟨rfl, -⟩ := Prod.mk.inj (Except.ok.inj hfinish)
  have hslots := slots_shape.exists_read hs
  simp only [List.forall_mem_cons] at hslots
  obtain ⟨hadd, hmodify, hremove, -⟩ := hslots
  refine read_toJson fun action endpoint hendpoint => ?_
  have hexists : ∃ d, Endpoint.read d = .ok endpoint := by
    cases action with
    | add => exact read_of_join hadd hendpoint
    | modify => exact read_of_join hmodify hendpoint
    | remove => exact read_of_join hremove hendpoint
  obtain ⟨d, hd⟩ := hexists
  exact Endpoint.faithful d endpoint hd

end Endpoints

namespace TypeConfig

theorem slots_shape : shape.Slots [⟨"deployRequests", Endpoints.read, id⟩] := by
  refine .of_single rfl rfl (fun _ _ => rfl) fun s other d hother => ?_
  simp [shape]

theorem read_toJson {config : TypeConfig}
    (h : (Endpoints.read (.ofJson config.endpoints.toJson)).map Prod.fst = .ok config.endpoints) :
    (TypeConfig.read (.ofJson config.toJson)).map Prod.fst = .ok config := by
  obtain ⟨⟨endpoints, unused⟩, hread, hfst⟩ := map_eq_ok.mp h
  obtain rfl : endpoints = config.endpoints := hfst
  refine map_eq_ok.mpr ⟨(config, unused), ?_, rfl⟩
  refine slots_shape.record_single hread fun s hs => ?_
  obtain rfl : s = some (config.endpoints, unused) := hs
  rfl

theorem faithful :
    Faithful (fun d => (TypeConfig.read d).map Prod.fst) TypeConfig.toJson := by
  intro d config h
  obtain ⟨⟨_, unused⟩, hread, rfl⟩ := map_eq_ok.mp h
  obtain ⟨s, hs, hfinish⟩ := Shape.exists_drafted hread
  obtain ⟨rfl, -⟩ := Prod.mk.inj (Except.ok.inj hfinish)
  refine read_toJson ?_
  cases s with
  | none => rfl
  | some found =>
    have hslots := slots_shape.exists_read hs
    simp only [List.forall_mem_singleton] at hslots
    obtain ⟨d, hd⟩ := hslots found rfl
    exact Endpoints.faithful d found.1 (map_eq_ok.mpr ⟨found, hd, rfl⟩)

end TypeConfig

namespace DeployConfig

theorem slots_shape :
    shape.Slots [⟨"types", Read.members takeType (Table.empty, []), id⟩] := by
  refine .of_single rfl rfl (fun _ _ => rfl) fun s other d hother => ?_
  simp [shape]

theorem fst_eachMember_takeType {entries : List (Document × Document)} {types : Table TypeConfig}
    {unused : List UnusedParam} :
    (eachMember takeType (types, unused) entries).map Prod.fst =
      eachMember (fun t name d => do
        return t.insert name (← (TypeConfig.read d).map Prod.fst)) types entries := by
  induction entries generalizing types unused with
  | nil => rfl
  | cons entry entries ih =>
    obtain ⟨n, d⟩ := entry
    simp only [eachMember, takeType]
    cases n.name with
    | error fault => rfl
    | ok name =>
      cases TypeConfig.read d with
      | error e => rfl
      | ok found => exact ih

/-- The types of a configuration are a table, whatever is found unused in them. -/
theorem fst_members_takeType (d : Document) :
    (Read.members takeType (Table.empty, []) d).map Prod.fst =
      table (fun d => (TypeConfig.read d).map Prod.fst) d := by
  cases d with
  | object entries ending =>
    rw [table, Read.members, Read.members, ← fst_eachMember_takeType]
    cases eachMember takeType (Table.empty, []) entries with
    | error e => rfl
    | ok found => cases ending <;> rfl
  | _ => rfl

theorem read_toJson {config : DeployConfig}
    (h : (Read.members takeType (Table.empty, []) (.ofJson
      (.object (config.types.mapValues TypeConfig.toJson).entries))).map Prod.fst =
        .ok config.types) :
    (DeployConfig.read (.ofJson config.toJson)).map Prod.fst = .ok config := by
  obtain ⟨⟨types, unused⟩, hread, hfst⟩ := map_eq_ok.mp h
  obtain rfl : types = config.types := hfst
  refine map_eq_ok.mpr ⟨(config, unused), ?_, rfl⟩
  refine slots_shape.record_single hread fun s hs => ?_
  obtain rfl : s = some (config.types, unused) := hs
  rfl

theorem faithful :
    Faithful (fun d => (DeployConfig.read d).map Prod.fst) DeployConfig.toJson := by
  intro d config h
  obtain ⟨⟨_, unused⟩, hread, rfl⟩ := map_eq_ok.mp h
  obtain ⟨s, hs, hfinish⟩ := Shape.exists_drafted hread
  obtain ⟨rfl, -⟩ := Prod.mk.inj (Except.ok.inj hfinish)
  refine read_toJson ?_
  cases s with
  | none => rfl
  | some found =>
    have hslots := slots_shape.exists_read hs
    simp only [List.forall_mem_singleton] at hslots
    obtain ⟨d, hd⟩ := hslots found rfl
    have htable : table (fun d => (TypeConfig.read d).map Prod.fst) d = .ok found.1 := by
      rw [← fst_members_takeType, hd]
      rfl
    rw [fst_members_takeType]
    exact table_faithful TypeConfig.faithful d found.1 htable

end DeployConfig

/-- What is written of a value is read as that value, and written again as it was, with the
members of objects in the same order. -/
structure ReadsBack {α : Type} (read : Document → Read α) (write : α → Json) (value : α) :
    Prop where
  read_again : read (.ofJson (write value)) = .ok value
  written_again : (read (.ofJson (write value))).map write = .ok (write value)

theorem Read.Faithful.readsBack {α : Type} {read : Document → Read α} {write : α → Json}
    (h : Faithful read write) {d : Document} {value : α} (hvalue : read d = .ok value) :
    ReadsBack read write value := by
  have hback := h d value hvalue
  refine ⟨hback, ?_⟩
  rw [hback]
  rfl

/-- Whatever document an entity, a change, an endpoint, the endpoints of a type or a deploy
configuration is read from, it reads back. -/
theorem written_reads_back (d : Document) :
    (∀ surplus entity, Entity.read surplus d = .ok entity →
      ReadsBack (Entity.read surplus) Entity.toJson entity) ∧
    (∀ change, Change.read d = .ok change → ReadsBack Change.read Change.toJson change) ∧
    (∀ endpoint, Endpoint.read d = .ok endpoint →
      ReadsBack Endpoint.read Endpoint.toJson endpoint) ∧
    (∀ endpoints unused, Endpoints.read d = .ok (endpoints, unused) →
      ReadsBack (fun d => (Endpoints.read d).map Prod.fst) Endpoints.toJson endpoints) ∧
    (∀ config unused, DeployConfig.read d = .ok (config, unused) →
      ReadsBack (fun d => (DeployConfig.read d).map Prod.fst) DeployConfig.toJson config) := by
  refine ⟨?_, ?_, ?_, ?_, ?_⟩
  · intro surplus entity h
    exact (Entity.faithful surplus).readsBack h
  · intro change h
    exact Change.faithful.readsBack h
  · intro endpoint h
    exact Endpoint.faithful.readsBack h
  · intro endpoints unused h
    exact Endpoints.faithful.readsBack (map_eq_ok.mpr ⟨_, h, rfl⟩)
  · intro config unused h
    exact DeployConfig.faithful.readsBack (map_eq_ok.mpr ⟨_, h, rfl⟩)

section Witness

private def entityDocument : Document :=
  .array [.string "crm.Deal.instance.d1", .object [] none,
    .object [(.string "b", .null), (.string "a", .bool true)] none] none

private def changeDocument : Document := .array [.string "add", entityDocument] none

private def endpointDocument : Document :=
  .object [(.string "queryParams", .object [(.string "dry", .bool true)] none),
    (.string "method", .object [(.string "put", .null)] none),
    (.string "urlParamsToFields", .object [(.string "id", .string "_parent.+01.id")] none),
    (.string "deployAsField", .null),
    (.string "url", .string "/deals/\x7bid\x7d")] none

private def endpointsDocument : Document :=
  .object [(.string "remove", .null), (.string "add", endpointDocument)] none

private def configDocument : Document :=
  .object [(.string "note", .null), (.string "types",
    .object [(.string "Deal", .array [endpointsDocument] none)] none)] none

theorem written_reads_back_sparsely :
    (∃ entity, Entity.read .malformed entityDocument = .ok entity ∧
      ReadsBack (Entity.read .malformed) Entity.toJson entity) ∧
    (∃ change, Change.read changeDocument = .ok change ∧
      ReadsBack Change.read Change.toJson change) ∧
    (∃ endpoint, Endpoint.read endpointDocument = .ok endpoint ∧
      ReadsBack Endpoint.read Endpoint.toJson endpoint) ∧
    (∃ endpoints unused, Endpoints.read endpointsDocument = .ok (endpoints, unused) ∧
      ReadsBack (fun d => (Endpoints.read d).map Prod.fst) Endpoints.toJson endpoints) ∧
    (∃ config unused, DeployConfig.read configDocument = .ok (config, unused) ∧
      ReadsBack (fun d => (DeployConfig.read d).map Prod.fst) DeployConfig.toJson config) :=
  ⟨⟨_, rfl, (written_reads_back entityDocument).1 _ _ rfl⟩,
    ⟨_, rfl, (written_reads_back changeDocument).2.1 _ rfl⟩,
    ⟨_, rfl, (written_reads_back endpointDocument).2.2.1 _ rfl⟩,
    ⟨_, _, rfl, (written_reads_back endpointsDocument).2.2.2.1 _ _ rfl⟩,
    ⟨_, _, rfl, (written_reads_back configDocument).2.2.2.2 _ _ rfl⟩⟩

end Witness

end Rollout
