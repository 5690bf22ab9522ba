import Rollout.Proofs.Reading.RoundTrip
import Rollout.Proofs.Request.Placeholders
import Rollout.Request.Build

/-!
# Unused mappings

Filling in a template looks up the names of its placeholders and no others, while reading a
configuration reports the mapped names that no placeholder has. Both agree on which mappings
count: without the reported ones exactly those of the placeholders are left, and the requests and
warnings stay the same.
-/

namespace Rollout

open Read

/-! ## What filling in looks up -/

namespace UrlTemplate

section Agree

variable (template : UrlTemplate) {params other : Table FieldPath} (entity : Entity)
  {name : String}

theorem paramText_of_agree (h : params.get? name = other.get? name) :
    paramText template params entity name = paramText template other entity name := by
  simp only [paramText, source?, h]

theorem ambiguity?_of_agree (h : params.get? name = other.get? name) :
    ambiguity? template params entity name = ambiguity? template other entity name := by
  simp only [ambiguity?, h]

theorem fillParts_of_agree (parts : List TemplatePart)
    (h : ∀ name ∈ UrlTemplate.params ⟨parts⟩, params.get? name = other.get? name) :
    fillParts template params entity parts = fillParts template other entity parts := by
  induction parts with
  | nil => rfl
  | cons part parts ih =>
    cases part with
    | literal text =>
      have hrest := ih (by simpa using h)
      simp only [fillParts, hrest]
    | param name =>
      rw [params_param, List.forall_mem_cons] at h
      have hrest := ih h.2
      simp only [fillParts, paramText_of_agree template entity h.1,
        ambiguity?_of_agree template entity h.1, hrest]

/-- A template is filled in alike by mappings that agree on its placeholders. -/
theorem fill_of_agree (h : ∀ name ∈ template.params, params.get? name = other.get? name) :
    template.fill params entity = template.fill other entity := by
  rw [fill, fill, fillParts_of_agree template entity template.parts h]

end Agree

end UrlTemplate

/-! ## Leaving mappings out -/

/-- An endpoint without the mappings that are reported as unused by its URL. -/
def Endpoint.without (endpoint : Endpoint) (unused : List UnusedParam) : Endpoint :=
  { endpoint with
    urlParams := endpoint.urlParams.filter fun name => !unused.contains ⟨name, endpoint.url⟩ }

def Endpoints.without (endpoints : Endpoints) (unused : List UnusedParam) : Endpoints where
  add := endpoints.add.map fun endpoint => endpoint.without unused
  modify := endpoints.modify.map fun endpoint => endpoint.without unused
  remove := endpoints.remove.map fun endpoint => endpoint.without unused

def DeployConfig.without (config : DeployConfig) (unused : List UnusedParam) : DeployConfig :=
  ⟨config.types.mapValues fun type => ⟨type.endpoints.without unused⟩⟩

theorem Endpoints.forAction_without (endpoints : Endpoints) (unused : List UnusedParam)
    (action : Action) : (endpoints.without unused).forAction action =
      (endpoints.forAction action).map fun endpoint => endpoint.without unused := by
  cases action <;> rfl

theorem DeployConfig.endpointsFor_without (config : DeployConfig) (unused : List UnusedParam)
    (typeName : String) : (config.without unused).endpointsFor typeName =
      (config.endpointsFor typeName).without unused := by
  simp only [endpointsFor, endpointsFor?, without, Table.get?_mapValues]
  cases config.types.get? typeName <;> rfl

/-- An endpoint is that of some action. -/
def Endpoints.Has (endpoints : Endpoints) (endpoint : Endpoint) : Prop :=
  ∃ action, endpoints.forAction action = some endpoint

def DeployConfig.Has (config : DeployConfig) (endpoint : Endpoint) : Prop :=
  ∃ typeName, (config.endpointsFor typeName).Has endpoint

/-- What is right to report of some endpoints: only names that the URL does not have, and all of
those that one of the endpoints maps. -/
structure ReportedOf (unused : List UnusedParam) (given : Endpoint → Prop) : Prop where
  sound : ∀ report ∈ unused, report.name ∉ report.url.params
  complete : ∀ endpoint, given endpoint → endpoint.unusedParams ⊆ unused

namespace ReportedOf

variable {unused more : List UnusedParam} {given others : Endpoint → Prop} {endpoint : Endpoint}

theorem nil (h : ∀ endpoint, ¬ given endpoint) : ReportedOf [] given :=
  ⟨by simp, fun endpoint hgiven => absurd hgiven (h endpoint)⟩

theorem append (h : ReportedOf unused given) (hmore : ReportedOf more others) :
    ReportedOf (unused ++ more) fun endpoint => given endpoint ∨ others endpoint where
  sound report hreport := by
    rcases List.mem_append.mp hreport with hreport | hreport
    · exact h.sound report hreport
    · exact hmore.sound report hreport
  complete endpoint hgiven := by
    rcases hgiven with hgiven | hgiven
    · exact List.subset_append_of_subset_left more (h.complete endpoint hgiven)
    · exact List.subset_append_of_subset_right unused (hmore.complete endpoint hgiven)

theorem mono (h : ReportedOf unused given)
    (hothers : ∀ endpoint, others endpoint → given endpoint) : ReportedOf unused others :=
  ⟨h.sound, fun endpoint hother => h.complete endpoint (hothers endpoint hother)⟩

/-- Without the reported mappings exactly those of the placeholders are left. -/
theorem get?_without (h : ReportedOf unused given) (hgiven : given endpoint) (name : String) :
    (endpoint.without unused).urlParams.get? name =
      if name ∈ endpoint.url.params then endpoint.urlParams.get? name else none := by
  rw [Endpoint.without, Table.get?_filter]
  -- No placeholder is reported, and any other name is if it is mapped.
  by_cases hparam : name ∈ endpoint.url.params
  · have hkept : ⟨name, endpoint.url⟩ ∉ unused := fun hreport => h.sound _ hreport hparam
    simp [hparam, hkept]
  by_cases hmapped : name ∈ endpoint.urlParams.names
  · have hreport : ⟨name, endpoint.url⟩ ∈ endpoint.unusedParams :=
      List.mem_map.mpr ⟨name, List.mem_filter.mpr ⟨hmapped, by simpa using hparam⟩, rfl⟩
    simp [hparam, h.complete endpoint hgiven hreport]
  · simp [Table.get?_eq_none_iff.mpr hmapped]

theorem requestFor_without (h : ReportedOf unused given) (hgiven : given endpoint)
    (change : Change) (leftOut : LeftOut) :
    change.requestFor (endpoint.without unused) leftOut = change.requestFor endpoint leftOut := by
  have hfill : endpoint.url.fill (endpoint.without unused).urlParams change.data =
      endpoint.url.fill endpoint.urlParams change.data := by
    apply UrlTemplate.fill_of_agree
    intro name hname
    rw [h.get?_without hgiven, if_pos hname]
  rw [Change.requestFor, Change.requestFor, ← hfill]
  rfl

theorem request_without {endpoints : Endpoints} (h : ReportedOf unused given)
    (hgiven : ∀ endpoint, endpoints.Has endpoint → given endpoint) (change : Change)
    (leftOut : LeftOut) :
    change.request (endpoints.without unused) leftOut = change.request endpoints leftOut := by
  rw [Change.request, Change.request, Endpoints.forAction_without]
  cases hendpoint : endpoints.forAction change.action with
  | none => rfl
  | some endpoint =>
    exact h.requestFor_without (hgiven endpoint ⟨_, hendpoint⟩) change leftOut

end ReportedOf

/-! ## What reading reports -/

theorem Endpoint.reportedOf_unusedParams (endpoint : Endpoint) :
    ReportedOf endpoint.unusedParams fun other => endpoint = other where
  sound report hreport := by
    obtain ⟨name, hname, rfl⟩ := List.mem_map.mp hreport
    simpa using (List.mem_filter.mp hname).2
  complete other hother := by
    rw [hother]
    exact List.Subset.refl _

namespace Endpoints

theorem not_has_unconfigured (endpoint : Endpoint) : ¬ unconfigured.Has endpoint := by
  intro ⟨action, haction⟩
  cases action <;> cases haction

theorem reportedOf_unusedOf (found : Option Endpoint) :
    ReportedOf (unusedOf found) fun endpoint => found = some endpoint := by
  cases found with
  | none => exact .nil (by simp)
  | some endpoint => exact endpoint.reportedOf_unusedParams.mono fun _ => Option.some.inj

/-- Every endpoint that is taken in is reported of, and stays so when others follow. -/
theorem reportedOf_draft {s : Draft} (h : shape.Drafted s) :
    ReportedOf s.unused fun endpoint => s.add.join = some endpoint ∨
      s.modify.join = some endpoint ∨ s.remove.join = some endpoint := by
  induction h with
  | draft => exact .nil (by simp [shape])
  | @take s s' name d _ htake ih =>
    simp only [shape] at htake
    obtain ⟨found, _, htake⟩ := bind_eq_ok.mp htake
    -- What is reported stays so, also of an endpoint that the one taken in replaces.
    have hreported := ih.append (reportedOf_unusedOf found)
    split at htake
    all_goals
      obtain rfl := Except.ok.inj htake
      apply hreported.mono
      intro endpoint hendpoint
      simp only [Option.join_some] at hendpoint
      tauto

theorem reportedOf_read {d : Document} {endpoints : Endpoints} {unused : List UnusedParam}
    (h : Endpoints.read d = .ok (endpoints, unused)) : ReportedOf unused endpoints.Has := by
  obtain ⟨s, hs, hfinish⟩ := Shape.exists_drafted h
  obtain ⟨rfl, rfl⟩ := Prod.mk.inj (Except.ok.inj hfinish)
  apply (reportedOf_draft hs).mono
  rintro endpoint ⟨action, haction⟩
  cases action with
  | add => exact .inl haction
  | modify => exact .inr (.inl haction)
  | remove => exact .inr (.inr haction)

end Endpoints

theorem TypeConfig.reportedOf_read {d : Document} {config : TypeConfig}
    {unused : List UnusedParam} (h : TypeConfig.read d = .ok (config, unused)) :
    ReportedOf unused config.endpoints.Has := by
  obtain ⟨s, hs, hfinish⟩ := Shape.exists_drafted h
  obtain ⟨rfl, rfl⟩ := Prod.mk.inj (Except.ok.inj hfinish)
  have hslots := slots_shape.exists_read hs
  simp only [List.forall_mem_singleton] at hslots
  cases s with
  | none => exact .nil Endpoints.not_has_unconfigured
  | some found =>
    obtain ⟨d, hd⟩ := hslots found rfl
    exact Endpoints.reportedOf_read hd

namespace DeployConfig

theorem endpointsFor_insert (types : Table TypeConfig) (name typeName : String)
    (config : TypeConfig) : endpointsFor ⟨types.insert name config⟩ typeName =
      if name = typeName then config.endpoints else endpointsFor ⟨types⟩ typeName := by
  simp only [endpointsFor, endpointsFor?, Table.get?_insert]
  split <;> rfl

theorem reportedOf_empty : ReportedOf [] (Has ⟨Table.empty⟩) :=
  .nil fun endpoint ⟨_, hhas⟩ => Endpoints.not_has_unconfigured endpoint hhas

theorem reportedOf_takeType {s s' : Draft} {name : String} {d : Document}
    (hs : ReportedOf s.2 (Has ⟨s.1⟩)) (h : takeType s name d = .ok s') :
    ReportedOf s'.2 (Has ⟨s'.1⟩) := by
  obtain ⟨⟨config, unused⟩, hconfig, h⟩ := bind_eq_ok.mp h
  obtain rfl := Except.ok.inj h
  apply (hs.append (TypeConfig.reportedOf_read hconfig)).mono
  intro endpoint ⟨typeName, hhas⟩
  rw [endpointsFor_insert] at hhas
  split at hhas
  · exact .inr hhas
  · exact .inl ⟨typeName, hhas⟩

theorem reportedOf_read {d : Document} {config : DeployConfig} {unused : List UnusedParam}
    (h : DeployConfig.read d = .ok (config, unused)) : ReportedOf unused config.Has := by
  obtain ⟨s, hs, hfinish⟩ := Shape.exists_drafted h
  obtain ⟨rfl, rfl⟩ := Prod.mk.inj (Except.ok.inj hfinish)
  have hslots := slots_shape.exists_read hs
  simp only [List.forall_mem_singleton] at hslots
  cases s with
  | none => exact reportedOf_empty
  | some found =>
    obtain ⟨d, hd⟩ := hslots found rfl
    obtain ⟨entries, _, hentries⟩ := members_eq_ok.mp hd
    have hkeeps : ∀ s name d s', ReportedOf s.2 (Has ⟨s.1⟩) → takeType s name d = .ok s' →
        ReportedOf s'.2 (Has ⟨s'.1⟩) := fun _ _ _ _ => reportedOf_takeType
    exact eachMember_keeps hkeeps hentries reportedOf_empty

end DeployConfig

/-- Mappings of names that are no placeholders have no effect. A template is filled in alike, with
the same warnings, by mappings that agree on its placeholders. If the mappings reported as unused
are left out of an endpoint, or of a configuration that was read, exactly those of placeholders
remain, and every change has the same request with the same warnings. -/
theorem requests_ignore_unused_mappings :
    (∀ (template : UrlTemplate) (params other : Table FieldPath) (entity : Entity),
      (∀ name ∈ template.params, params.get? name = other.get? name) →
        template.fill params entity = template.fill other entity) ∧
    (∀ endpoint : Endpoint,
      (∀ name, (endpoint.without endpoint.unusedParams).urlParams.get? name =
        if name ∈ endpoint.url.params then endpoint.urlParams.get? name else none) ∧
      ∀ (change : Change) (leftOut : LeftOut),
        change.requestFor (endpoint.without endpoint.unusedParams) leftOut =
          change.requestFor endpoint leftOut) ∧
    ∀ (d : Document) (config : DeployConfig) (unused : List UnusedParam),
      DeployConfig.read d = .ok (config, unused) →
      (∀ endpoint, config.Has endpoint → ∀ name, (endpoint.without unused).urlParams.get? name =
        if name ∈ endpoint.url.params then endpoint.urlParams.get? name else none) ∧
      ∀ (change : Change) (leftOut : LeftOut) (typeName : String),
        change.request ((config.without unused).endpointsFor typeName) leftOut =
          change.request (config.endpointsFor typeName) leftOut := by
  refine ⟨?_, ?_, ?_⟩
  · intro template params other entity h
    exact template.fill_of_agree entity h
  · intro endpoint
    have hreported := endpoint.reportedOf_unusedParams
    exact ⟨hreported.get?_without rfl, hreported.requestFor_without rfl⟩
  · intro d config unused h
    have hreported := DeployConfig.reportedOf_read h
    refine ⟨fun endpoint hhas => hreported.get?_without hhas, fun change leftOut typeName => ?_⟩
    rw [DeployConfig.endpointsFor_without]
    exact hreported.request_without (fun endpoint hhas => ⟨typeName, hhas⟩) change leftOut

section Witness

private def dealTemplate : UrlTemplate := ⟨[.literal "/deals/", .param "id"]⟩

private def dealParams : Table FieldPath := Table.empty.insert "id" ⟨.ancestor 0, ["id"]⟩

private def strayDocument : Document :=
  .object [(.string "types", .object [(.string "Deal", .object [(.string "deployRequests",
    .object [(.string "modify", .object [(.string "url", .string "/deals/\x7bid\x7d"),
      (.string "method", .string "put"),
      (.string "urlParamsToFields", .object [(.string "owner", .string "owner.id"),
        (.string "id", .string "_parent.0.id"), (.string "id ", .string "id")] none)] none)]
      none)] none)] none)] none

theorem requests_ignore_unused_mappings_strayOwner :
    (∀ name ∈ dealTemplate.params,
      dealParams.get? name = (dealParams.insert "owner" (FieldPath.field "owner")).get? name) ∧
    (∀ entity, dealTemplate.fill dealParams entity =
      dealTemplate.fill (dealParams.insert "owner" (FieldPath.field "owner")) entity) ∧
    ∃ config unused, DeployConfig.read strayDocument = .ok (config, unused) ∧
      unused.map UnusedParam.name = ["id ", "owner"] ∧
      ∀ (change : Change) (leftOut : LeftOut) (typeName : String),
        change.request ((config.without unused).endpointsFor typeName) leftOut =
          change.request (config.endpointsFor typeName) leftOut := by
  have hagree : ∀ name ∈ dealTemplate.params, dealParams.get? name =
      (dealParams.insert "owner" (FieldPath.field "owner")).get? name := by decide
  obtain ⟨hfill, _, hread⟩ := requests_ignore_unused_mappings
  exact ⟨hagree, fun entity => hfill _ _ _ entity hagree, _, _, rfl, rfl,
    (hread strayDocument _ _ rfl).2⟩

end Witness

end Rollout
