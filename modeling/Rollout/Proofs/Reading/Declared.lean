import Rollout.Proofs.Reading.Endpoint

/-!
# Which definitions of endpoints are accepted

An object of distinct names is read as an endpoint if and only if it is well declared, and then
the endpoint has what the object gives, with the texts of the query parameters. The mapped names
that the URL does not use are reported, each once and in order.
-/

namespace Rollout

open Read

namespace Json

def isScalar : Json → Bool
  | .string _ | .number _ | .bool _ => true
  | _ => false

def string? : Json → Option String
  | .string text => some text
  | _ => none

def object? : Json → Option Fields
  | .object members => some members
  | _ => none

end Json

/-- What an object has to be like to be read as an endpoint. Of query parameters of one name only
the last one counts; every mapped path has to be one. -/
structure WellDeclared (members : Fields) : Prop where
  known : ∀ name ∈ members.names, name ∈ ["url", "method", "urlParamsToFields",
    "omitRequestBody", "fieldsToIgnore", "queryParams", "deployAsField"]
  url : ∃ value, members.get? "url" = some value ∧ (value.checked? UrlTemplate.ofText).isSome
  method : ∃ text ∈ ["get", "post", "put", "patch", "delete"],
    members.get? "method" = some (.string text)
  urlParams : ∀ value, members.get? "urlParamsToFields" = some value →
    ∃ params : Fields, value = .object params ∧
      ∀ param ∈ params, (param.2.checked? FieldPath.ofText).isSome
  omitBody : ∀ value, members.get? "omitRequestBody" = some value → ∃ omits, value = .bool omits
  ignored : ∀ value, members.get? "fieldsToIgnore" = some value →
    ∃ items, value = .array items ∧ ∀ item ∈ items,
      ∃ path, item.checked? FieldPath.ofText = some path ∧ path.root = .value
  query : ∀ value, members.get? "queryParams" = some value → value = .null ∨
    ∃ params : Fields, value = .object params ∧
      ∀ name param, params.last? name = some param → param.isScalar
  wrapper : ∀ value, members.get? "deployAsField" = some value →
    value = .null ∨ ∃ field, value = .string field

/-- The endpoint that an object gives: the templates and paths that its texts are accepted as, the
texts of its query parameters, and nothing where it says nothing. -/
structure Endpoint.DeclaredBy (endpoint : Endpoint) (members : Fields) : Prop where
  url : (members.get? "url").bind (Json.checked? UrlTemplate.ofText) = some endpoint.url
  method : members.get? "method" = some (.string endpoint.method.text)
  urlParams : ∀ name, endpoint.urlParams.get? name =
    ((members.get? "urlParamsToFields").bind Json.object?).bind fun params =>
      (params.last? name).bind (Json.checked? FieldPath.ofText)
  omitBody : endpoint.omitBody = true ↔ members.get? "omitRequestBody" = some (.bool true)
  ignored : members.get? "fieldsToIgnore" = none ∧ endpoint.ignored = [] ∨
    ∃ items, members.get? "fieldsToIgnore" = some (.array items) ∧
      items.map (Json.checked? FieldPath.ofText) = endpoint.ignored.map some
  query : ∀ name, endpoint.query.map (fun texts => texts.get? name) =
    ((members.get? "queryParams").bind Json.object?).map fun params =>
      (params.last? name).bind Json.scalarText?
  wrapper : endpoint.wrapper = (members.get? "deployAsField").bind Json.string?

/-- What is reported about the mapped names of an endpoint: exactly those that are no
placeholders of the URL, in ascending order, so each once. -/
structure Endpoint.ReportedFor (endpoint : Endpoint) (members : Fields) : Prop where
  ascending : (endpoint.unusedParams.map UnusedParam.name).Pairwise (· < ·)
  exactly : ∀ unused, unused ∈ endpoint.unusedParams ↔ unused.url = endpoint.url ∧
    (∃ params : Fields, members.get? "urlParamsToFields" = some (.object params) ∧
      unused.name ∈ params.names) ∧ unused.name ∉ endpoint.url.params
  reported : ∀ action : Action,
    (Endpoints.read (.ofJson (.object [(action.text, .object members)]))).map Prod.snd =
      .ok endpoint.unusedParams

/-! ## The values of single fields -/

theorem HttpMethod.read_string {text : String} {method : HttpMethod} :
    HttpMethod.read (.string text) = .ok method ↔ text = method.text := by
  constructor
  · intro h
    obtain ⟨s, hs, h⟩ := bind_eq_ok.mp h
    obtain rfl := Document.string.inj (string_eq_ok.mp hs)
    split at h
    · rename_i found hfind
      obtain rfl := Except.ok.inj h
      exact (by simpa using List.find?_some hfind : found.text = text).symm
    · exact absurd h fail_ne_ok
  · rintro rfl
    exact HttpMethod.read_text method

theorem HttpMethod.exists_text {text : String}
    (h : text ∈ ["get", "post", "put", "patch", "delete"]) :
    ∃ method : HttpMethod, text = method.text := by
  change text ∈ HttpMethod.all.map HttpMethod.text at h
  obtain ⟨method, _, rfl⟩ := List.mem_map.mp h
  exact ⟨method, rfl⟩

theorem Json.isScalar_iff {value : Json} : value.isScalar ↔ value.scalarText?.isSome := by
  cases value <;> simp [isScalar, scalarText?]

/-- Reading a value keeps its text. -/
theorem Json.scalarText?_of_read {value found : Json} (h : json (.ofJson value) = .ok found) :
    found.scalarText? = value.scalarText? := by
  have hfound := json_eq_ok.mp h
  cases value with
  | array items =>
    obtain ⟨values, _, h⟩ := bind_eq_ok.mp hfound
    obtain ⟨_, _, h⟩ := bind_eq_ok.mp h
    obtain rfl := Except.ok.inj h
    rfl
  | object members =>
    obtain ⟨values, _, h⟩ := bind_eq_ok.mp hfound
    obtain ⟨_, _, h⟩ := bind_eq_ok.mp h
    obtain rfl := Except.ok.inj h
    rfl
  | _ =>
    obtain rfl := Except.ok.inj hfound
    rfl

theorem Json.exists_read (value : Json) : ∃ found, json (.ofJson value) = .ok found := by
  obtain ⟨found, hfound⟩ := Document.exists_toJson value
  exact ⟨found, json_eq_ok.mpr hfound⟩

namespace EndpointParts

variable {params : Fields} {query : Table Json}

/-- The query parameters have texts if and only if they are scalars, as they were given. -/
theorem scalars_iff (h : table json (.ofJson (.object params)) = .ok query) :
    Scalars query ↔ ∀ name param, params.last? name = some param → param.isScalar := by
  have hget := get?_of_table_ofJson h
  constructor
  · intro hscalars name param hparam
    obtain ⟨found, hfound⟩ := param.exists_read
    have hname : query.get? name = some found := by
      rw [hget, hparam, Option.bind_some, hfound]
      rfl
    have hsome := hscalars _ (Table.mem_entries_iff.mpr hname)
    rw [Json.isScalar_iff, ← Json.scalarText?_of_read hfound]
    exact hsome
  · rintro hall ⟨name, found⟩ hentry
    have hname := (hget name).symm.trans (Table.mem_entries_iff.mp hentry)
    obtain ⟨param, hparam, hfound⟩ := Option.bind_eq_some_iff.mp hname
    obtain ⟨found', hfound'⟩ := param.exists_read
    rw [hfound'] at hfound
    obtain rfl := Option.some.inj hfound
    rw [Json.scalarText?_of_read hfound', ← Json.isScalar_iff]
    exact hall name param hparam

theorem get?_textsOf (h : table json (.ofJson (.object params)) = .ok query)
    (hscalars : Scalars query) (name : String) :
    (textsOf query).get? name = (params.last? name).bind Json.scalarText? := by
  rw [textsOf, Table.get?_mapValues, get?_of_table_ofJson h]
  cases hparam : params.last? name with
  | none => rfl
  | some param =>
    obtain ⟨found, hfound⟩ := param.exists_read
    have hscalar := (scalars_iff h).mp hscalars name param hparam
    obtain ⟨text, htext⟩ := Option.isSome_iff_exists.mp (Json.isScalar_iff.mp hscalar)
    rw [Option.bind_some, Option.bind_some, hfound, htext]
    change some (found.scalarText?.getD "") = some text
    rw [Json.scalarText?_of_read hfound, htext]
    rfl

end EndpointParts

namespace EndpointParts.GivenBy

variable {members : Fields} {parts : EndpointParts}

theorem method_eq (h : parts.GivenBy members)
    (hmethod : ∀ value, members.get? "method" = some value → ∃ text, value = .string text) :
    members.get? "method" = some (.string parts.method.text) := by
  obtain ⟨value, hget, hread⟩ := Fields.read?_eq_ok_some.mp h.method
  obtain ⟨text, rfl⟩ := hmethod value hget
  rw [hget, HttpMethod.read_string.mp hread]

theorem wellDeclared (h : parts.GivenBy members)
    (hknown : ∀ name ∈ members.names, name ∈ shape.fields)
    (hmethod : ∀ value, members.get? "method" = some value → ∃ text, value = .string text)
    (hroots : ∀ path ∈ parts.ignored, path.root = .value)
    (hscalars : ∀ query, parts.query = some query → Scalars query) : WellDeclared members where
  known := hknown
  url := by
    obtain ⟨value, hget, hread⟩ := Fields.read?_eq_ok_some.mp h.url
    exact ⟨value, hget, Option.isSome_iff_exists.mpr ⟨_, parsed_ofJson_eq_ok.mp hread⟩⟩
  method := by
    refine ⟨parts.method.text, ?_, h.method_eq hmethod⟩
    cases parts.method <;> simp [HttpMethod.text]
  urlParams := by
    intro value hvalue
    have hread := Fields.read_of_getD h.urlParams hvalue
    obtain ⟨params, rfl, hparams⟩ := exists_table_ofJson.mp ⟨_, hread⟩
    refine ⟨params, rfl, fun param hparam => ?_⟩
    obtain ⟨path, hpath⟩ := hparams param hparam
    exact Option.isSome_iff_exists.mpr ⟨path, parsed_ofJson_eq_ok.mp hpath⟩
  omitBody := by
    intro value hvalue
    have hread := Fields.read_of_getD h.omitBody hvalue
    exact ⟨parts.omitBody, bool_ofJson_eq_ok.mp hread⟩
  ignored := by
    intro value hvalue
    have hread := Fields.read_of_getD h.ignored hvalue
    obtain ⟨items, rfl, hitems⟩ := list_ofJson_eq_ok.mp hread
    refine ⟨items, rfl, fun item hitem => ?_⟩
    obtain ⟨n, hn, rfl⟩ := List.mem_iff_getElem.mp hitem
    have hn' : n < parts.ignored.length := hitems.length_eq ▸ hn
    exact ⟨parts.ignored[n], parsed_ofJson_eq_ok.mp (hitems.get hn hn'),
      hroots _ (List.getElem_mem hn')⟩
  query := by
    intro value hvalue
    rcases Fields.read_of_join h.query hvalue with ⟨rfl, _⟩ | ⟨query, hread, hquery⟩
    · exact .inl rfl
    · obtain ⟨params, rfl, _⟩ := table_ofJson_eq_ok.mp hread
      exact .inr ⟨params, rfl, (scalars_iff hread).mp (hscalars query hquery)⟩
  wrapper := by
    intro value hvalue
    rcases Fields.read_of_join h.wrapper hvalue with ⟨rfl, _⟩ | ⟨field, hread, _⟩
    · exact .inl rfl
    · exact .inr ⟨field, string_ofJson_eq_ok.mp hread⟩

theorem declaredBy (h : parts.GivenBy members)
    (hmethod : ∀ value, members.get? "method" = some value → ∃ text, value = .string text)
    (hscalars : ∀ query, parts.query = some query → Scalars query) :
    (parts.withQuery (parts.query.map textsOf)).DeclaredBy members where
  url := by
    obtain ⟨value, hget, hread⟩ := Fields.read?_eq_ok_some.mp h.url
    rw [hget]
    exact parsed_ofJson_eq_ok.mp hread
  method := h.method_eq hmethod
  urlParams := by
    intro name
    change parts.urlParams.get? name = _
    cases hget : members.get? "urlParamsToFields" with
    | none =>
      rw [Fields.eq_of_getD h.urlParams hget]
      rfl
    | some value =>
      have hread := Fields.read_of_getD h.urlParams hget
      obtain ⟨params, rfl, _⟩ := table_ofJson_eq_ok.mp hread
      rw [get?_of_table_ofJson hread]
      simp only [FieldPath.read, toOption_parsed_ofJson]
      rfl
  omitBody := by
    change parts.omitBody = true ↔ _
    cases hget : members.get? "omitRequestBody" with
    | none => simp [Fields.eq_of_getD h.omitBody hget]
    | some value =>
      have hread := Fields.read_of_getD h.omitBody hget
      simp [bool_ofJson_eq_ok.mp hread]
  ignored := by
    change _ ∧ parts.ignored = [] ∨ ∃ items, _ ∧ _ = parts.ignored.map some
    cases hget : members.get? "fieldsToIgnore" with
    | none => exact .inl ⟨rfl, Fields.eq_of_getD h.ignored hget⟩
    | some value =>
      have hread := Fields.read_of_getD h.ignored hget
      obtain ⟨items, rfl, hitems⟩ := list_ofJson_eq_ok.mp hread
      refine .inr ⟨items, rfl, ?_⟩
      rw [← List.forall₂_eq_eq_eq, List.forall₂_map_left_iff, List.forall₂_map_right_iff]
      exact hitems.imp fun _ _ hitem => parsed_ofJson_eq_ok.mp hitem
  query := by
    intro name
    change (parts.query.map textsOf).map (fun texts => texts.get? name) = _
    cases hget : members.get? "queryParams" with
    | none =>
      rw [Fields.eq_of_join h.query hget]
      rfl
    | some value =>
      rcases Fields.read_of_join h.query hget with ⟨rfl, hnone⟩ | ⟨query, hread, hquery⟩
      · rw [hnone]
        rfl
      · obtain ⟨params, rfl, _⟩ := table_ofJson_eq_ok.mp hread
        rw [hquery]
        exact congrArg some (get?_textsOf hread (hscalars query hquery) name)
  wrapper := by
    change parts.wrapper = _
    cases hget : members.get? "deployAsField" with
    | none => exact Fields.eq_of_join h.wrapper hget
    | some value =>
      rcases Fields.read_of_join h.wrapper hget with ⟨rfl, hnone⟩ | ⟨field, hread, hfield⟩
      · exact hnone
      · obtain rfl := string_ofJson_eq_ok.mp hread
        exact hfield

end EndpointParts.GivenBy

namespace WellDeclared

variable {members : Fields} {parts : EndpointParts}

theorem exists_givenBy (h : WellDeclared members) : ∃ parts : EndpointParts,
    parts.GivenBy members := by
  obtain ⟨_, hurlValue, hurl⟩ := h.url
  obtain ⟨url, hurl⟩ := Option.isSome_iff_exists.mp hurl
  obtain ⟨text, htext, hmethodValue⟩ := h.method
  obtain ⟨method, hmethod⟩ := HttpMethod.exists_text htext
  obtain ⟨urlParams, hurlParams⟩ : ∃ urlParams, (members.read? "urlParamsToFields"
      (table FieldPath.read)).map (fun found => found.getD Table.empty) = .ok urlParams := by
    refine Fields.exists_getD (fun value hvalue => ?_) _
    obtain ⟨params, rfl, hparams⟩ := h.urlParams value hvalue
    refine exists_table_ofJson.mpr ⟨params, rfl, fun param hparam => ?_⟩
    obtain ⟨path, hpath⟩ := Option.isSome_iff_exists.mp (hparams param hparam)
    exact ⟨path, parsed_ofJson_eq_ok.mpr hpath⟩
  obtain ⟨omitBody, homitBody⟩ : ∃ omitBody, (members.read? "omitRequestBody" Read.bool).map
      (fun found => found.getD false) = .ok omitBody := by
    refine Fields.exists_getD (fun value hvalue => ?_) _
    obtain ⟨omits, rfl⟩ := h.omitBody value hvalue
    exact ⟨omits, rfl⟩
  obtain ⟨ignored, hignored⟩ : ∃ ignored, (members.read? "fieldsToIgnore"
      (list FieldPath.read)).map (fun found => found.getD []) = .ok ignored := by
    refine Fields.exists_getD (fun value hvalue => ?_) _
    obtain ⟨items, rfl, hitems⟩ := h.ignored value hvalue
    refine exists_list_ofJson.mpr ⟨items, rfl, fun item hitem => ?_⟩
    obtain ⟨path, hpath, _⟩ := hitems item hitem
    exact ⟨path, parsed_ofJson_eq_ok.mpr hpath⟩
  obtain ⟨query, hquery⟩ : ∃ query, (members.read? "queryParams"
      (Read.optional (table json))).map Option.join = .ok query := by
    refine Fields.exists_join fun value hvalue => (h.query value hvalue).imp_right ?_
    rintro ⟨params, rfl, _⟩
    exact exists_table_ofJson.mpr ⟨params, rfl, fun param _ => param.2.exists_read⟩
  obtain ⟨wrapper, hwrapper⟩ : ∃ wrapper, (members.read? "deployAsField"
      (Read.optional (Read.string "a string"))).map Option.join = .ok wrapper := by
    refine Fields.exists_join fun value hvalue => (h.wrapper value hvalue).imp_right ?_
    rintro ⟨field, rfl⟩
    exact ⟨field, rfl⟩
  refine ⟨⟨url, method, urlParams, omitBody, ignored, query, wrapper⟩, ?_, ?_, hurlParams,
    homitBody, hignored, hquery, hwrapper⟩
  · exact Fields.read?_eq_ok_some.mpr ⟨_, hurlValue, parsed_ofJson_eq_ok.mpr hurl⟩
  · exact Fields.read?_eq_ok_some.mpr ⟨_, hmethodValue, HttpMethod.read_string.mpr hmethod⟩

theorem roots (h : WellDeclared members) (hgiven : parts.GivenBy members) :
    ∀ path ∈ parts.ignored, path.root = .value := by
  intro path hpath
  cases hget : members.get? "fieldsToIgnore" with
  | none =>
    rw [Fields.eq_of_getD hgiven.ignored hget] at hpath
    cases hpath
  | some value =>
    obtain ⟨items, rfl, hall⟩ := h.ignored value hget
    obtain ⟨items', heq, hitems⟩ :=
      list_ofJson_eq_ok.mp (Fields.read_of_getD hgiven.ignored hget)
    obtain rfl := Json.array.inj heq
    obtain ⟨n, hn, rfl⟩ := List.mem_iff_getElem.mp hpath
    have hn' : n < items.length := hitems.length_eq ▸ hn
    have hread := parsed_ofJson_eq_ok.mp (hitems.get hn' hn)
    obtain ⟨path, hchecked, hroot⟩ := hall _ (List.getElem_mem hn')
    have hsame : parts.ignored[n] = path := Option.some.inj (hread.symm.trans hchecked)
    rw [hsame, hroot]

theorem scalars (h : WellDeclared members) (hgiven : parts.GivenBy members) :
    ∀ query, parts.query = some query → EndpointParts.Scalars query := by
  intro query hquery
  cases hget : members.get? "queryParams" with
  | none =>
    rw [Fields.eq_of_join hgiven.query hget] at hquery
    cases hquery
  | some value =>
    rcases Fields.read_of_join hgiven.query hget with ⟨_, hnone⟩ | ⟨found, hread, hfound⟩
    · rw [hnone] at hquery
      cases hquery
    obtain rfl := Option.some.inj (hfound.symm.trans hquery)
    rcases h.query value hget with rfl | ⟨params, rfl, hall⟩
    · obtain ⟨_, hnull, _⟩ := table_ofJson_eq_ok.mp hread
      cases hnull
    · exact (EndpointParts.scalars_iff hread).mpr hall

end WellDeclared

namespace Endpoint

variable {members : Fields} {endpoint : Endpoint}

theorem exists_read_of_wellDeclared (hdistinct : members.Distinct) (h : WellDeclared members) :
    ∃ endpoint, Endpoint.read (.ofJson (.object members)) = .ok endpoint := by
  obtain ⟨parts, hgiven⟩ := h.exists_givenBy
  have hendpoint := EndpointParts.toEndpoint_eq_ok.mpr
    ⟨h.roots hgiven, h.scalars hgiven, rfl⟩
  exact ⟨_, read_eq_ok.mpr
    ⟨parts, (EndpointParts.read_iff hdistinct).mpr ⟨h.known, hgiven⟩, hendpoint⟩⟩

theorem wellDeclared_of_read (hdistinct : members.Distinct)
    (hmethod : ∀ value, members.get? "method" = some value → ∃ text, value = .string text)
    (h : Endpoint.read (.ofJson (.object members)) = .ok endpoint) :
    WellDeclared members ∧ endpoint.DeclaredBy members := by
  obtain ⟨parts, hparts, hendpoint⟩ := read_eq_ok.mp h
  obtain ⟨hknown, hgiven⟩ := (EndpointParts.read_iff hdistinct).mp hparts
  obtain ⟨hroots, hscalars, rfl⟩ := EndpointParts.toEndpoint_eq_ok.mp hendpoint
  exact ⟨hgiven.wellDeclared hknown hmethod hroots hscalars, hgiven.declaredBy hmethod hscalars⟩

/-! ## Unused names -/

/-- A name is mapped if and only if the object maps it. -/
theorem mem_urlParams_iff (h : WellDeclared members) (hdeclared : endpoint.DeclaredBy members)
    (name : String) : name ∈ endpoint.urlParams.names ↔ ∃ params : Fields,
      members.get? "urlParamsToFields" = some (.object params) ∧ name ∈ params.names := by
  have hget := hdeclared.urlParams name
  cases hmapped : members.get? "urlParamsToFields" with
  | none =>
    rw [hmapped] at hget
    simp [Table.get?_eq_none_iff.mp hget]
  | some value =>
    obtain ⟨params, rfl, hparams⟩ := h.urlParams value hmapped
    rw [hmapped] at hget
    change endpoint.urlParams.get? name = (params.last? name).bind _ at hget
    have hnames : name ∈ endpoint.urlParams.names ↔ name ∈ params.names := by
      rw [← not_iff_not, ← Table.get?_eq_none_iff, ← Fields.last?_eq_none_iff, hget]
      cases hlast : params.last? name with
      | none => simp
      | some param =>
        have hmem : (name, param) ∈ params := List.mem_reverse.mp (Fields.mem_of_get? hlast)
        obtain ⟨path, hpath⟩ := Option.isSome_iff_exists.mp (hparams _ hmem)
        simp [hpath]
    simp [hnames]

theorem unusedParams_eq (endpoint : Endpoint) : endpoint.unusedParams.map UnusedParam.name =
    endpoint.urlParams.names.filter fun name => !endpoint.url.params.contains name := by
  rw [unusedParams, List.map_map]
  exact List.map_id _

/-- Reading an endpoint as that of an action reports its unused names. -/
theorem snd_read_endpoints (action : Action)
    (h : Endpoint.read (.ofJson (.object members)) = .ok endpoint) :
    (Endpoints.read (.ofJson (.object [(action.text, .object members)]))).map Prod.snd =
      .ok endpoint.unusedParams := by
  have hdistinct : Fields.Distinct [(action.text, .object members)] := List.nodup_singleton _
  have hknown : ∀ name ∈ Fields.names [(action.text, .object members)],
      name ∈ Endpoints.shape.fields := by
    cases action <;> simp [Action.text, Endpoints.shape]
  have hoptional :
      Read.optional Endpoint.read (.ofJson (.object members)) = .ok (some endpoint) := by
    change (Endpoint.read (.ofJson (.object members))).map some = _
    rw [h]
    rfl
  obtain ⟨s, htake, hunused⟩ : ∃ s, Endpoints.shape.takeFields Endpoints.shape.draft
      [(action.text, .object members)] = .ok s ∧ s.unused = endpoint.unusedParams := by
    simp only [Shape.takeFields, Endpoints.shape, hoptional]
    cases action <;> exact ⟨_, rfl, rfl⟩
  exact map_eq_ok.mpr ⟨_, (Shape.record_object hdistinct hknown).mpr ⟨s, htake, rfl⟩, hunused⟩

theorem reportedFor (hdeclared : endpoint.DeclaredBy members) (hwell : WellDeclared members)
    (h : Endpoint.read (.ofJson (.object members)) = .ok endpoint) :
    endpoint.ReportedFor members where
  ascending := by
    rw [unusedParams_eq]
    exact endpoint.urlParams.names_ascending.filter _
  exactly := by
    intro unused
    obtain ⟨name, url⟩ := unused
    rw [← mem_urlParams_iff hwell hdeclared, unusedParams, List.mem_map]
    simp only [List.mem_filter, UnusedParam.mk.injEq]
    constructor
    · rintro ⟨_, ⟨hmem, hunused⟩, rfl, rfl⟩
      exact ⟨rfl, hmem, by simpa using hunused⟩
    · rintro ⟨rfl, hmem, hunused⟩
      exact ⟨name, ⟨hmem, by simpa using hunused⟩, rfl, rfl⟩
  reported := fun action => snd_read_endpoints action h

/-- An object of distinct names is read as an endpoint if and only if it is well declared; what
is read is what the object gives, and the mapped names that the URL does not use are reported. -/
theorem read_exactly_wellDeclared (members : Fields) (hdistinct : members.Distinct)
    (hmethod : ∀ value, members.get? "method" = some value → ∃ text, value = .string text) :
    ((∃ endpoint, Endpoint.read (.ofJson (.object members)) = .ok endpoint) ↔
      WellDeclared members) ∧
    ∀ endpoint, Endpoint.read (.ofJson (.object members)) = .ok endpoint →
      endpoint.DeclaredBy members ∧ endpoint.ReportedFor members := by
  constructor
  · constructor
    · rintro ⟨endpoint, h⟩
      exact (wellDeclared_of_read hdistinct hmethod h).1
    · exact exists_read_of_wellDeclared hdistinct
  · intro endpoint h
    obtain ⟨hwell, hdeclared⟩ := wellDeclared_of_read hdistinct hmethod h
    exact ⟨hdeclared, reportedFor hdeclared hwell h⟩

private def dealMembers : Fields :=
  [("queryParams", .object [("dry", .bool true), ("note", .string "x")]),
    ("method", .string "put"), ("url", .string "/deals/\x7bid\x7d"),
    ("urlParamsToFields", .object [("owner", .string "owner.id"), ("id", .string "_parent.0.id")]),
    ("fieldsToIgnore", .array [.string "meta.id"])]

theorem read_exactly_wellDeclared_deal :
    (∀ value, dealMembers.get? "method" = some value → ∃ text, value = .string text) ∧
    WellDeclared dealMembers ∧ ∃ endpoint,
      Endpoint.read (.ofJson (.object dealMembers)) = .ok endpoint ∧
        endpoint.DeclaredBy dealMembers ∧ endpoint.ReportedFor dealMembers ∧
          endpoint.unusedParams.map UnusedParam.name = ["owner"] := by
  have hmethod : ∀ value, dealMembers.get? "method" = some value → ∃ text, value = .string text :=
    fun value h => ⟨"put", (Option.some.inj h).symm⟩
  obtain ⟨hiff, hread⟩ := read_exactly_wellDeclared dealMembers (by decide) hmethod
  exact ⟨hmethod, hiff.mp ⟨_, rfl⟩, _, rfl, (hread _ rfl).1, (hread _ rfl).2, rfl⟩

end Endpoint

end Rollout
