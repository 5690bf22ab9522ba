import Rollout.Proofs.Endpoint.Template
import Rollout.Proofs.Path.Text
import Rollout.Proofs.Reading.Record
import Rollout.Reading.Endpoint

/-!
# How endpoints are read

The parts of an endpoint are what the readers of its fields make of the members of an object.
Parts make an endpoint if the ignored paths start at the entity and the query parameters have
texts. An endpoint that was read is read back from what is written of it.
-/

namespace Rollout

open Read

theorem UrlTemplate.faithful :
    Faithful UrlTemplate.read fun template => .string template.text := by
  refine parsed_faithful fun text template h => ?_
  rw [UrlTemplate.text_of_ofText h]
  exact h

theorem FieldPath.faithful : Faithful FieldPath.read fun path => .string path.text :=
  parsed_faithful fun _ _ h => FieldPath.ofText_text h

theorem HttpMethod.read_text (method : HttpMethod) :
    HttpMethod.read (.ofJson (.string method.text)) = .ok method := by
  cases method <;> rfl

namespace EndpointParts

theorem slots_shape : shape.Slots
    [⟨"url", UrlTemplate.read, Draft.url⟩,
      ⟨"method", HttpMethod.read, Draft.method⟩,
      ⟨"urlParamsToFields", table FieldPath.read, Draft.urlParams⟩,
      ⟨"omitRequestBody", bool, Draft.omitBody⟩,
      ⟨"fieldsToIgnore", list FieldPath.read, Draft.ignored⟩,
      ⟨"queryParams", optional (table json), Draft.query⟩,
      ⟨"deployAsField", optional (string "a string"), Draft.wrapper⟩] where
  names := rfl
  distinct := by simp [shape]
  draft := by simp [shape]
  own := by
    simp only [List.forall_mem_cons, List.not_mem_nil, shape]
    refine ⟨fun s d => ?_, fun s d => ?_, fun s d => ?_, fun s d => ?_, fun s d => ?_,
      fun s d => ?_, fun s d => ?_, nofun⟩
    · cases UrlTemplate.read d <;> rfl
    · cases HttpMethod.read d <;> rfl
    · cases table FieldPath.read d <;> rfl
    · cases bool d <;> rfl
    · cases list FieldPath.read d <;> rfl
    · cases optional (table json) d <;> rfl
    · cases optional (string "a string") d <;> rfl
  others := by
    intro s name d s' h
    simp only [shape] at h
    split at h
    case h_8 =>
      obtain rfl := Except.ok.inj h
      simp
    all_goals
      obtain ⟨_, _, h⟩ := bind_eq_ok.mp h
      obtain rfl := Except.ok.inj h
      simp

/-- The parts that the members of an object give. -/
structure GivenBy (parts : EndpointParts) (members : Fields) : Prop where
  url : members.read? "url" UrlTemplate.read = .ok (some parts.url)
  method : members.read? "method" HttpMethod.read = .ok (some parts.method)
  urlParams : (members.read? "urlParamsToFields" (table FieldPath.read)).map
    (fun found => found.getD Table.empty) = .ok parts.urlParams
  omitBody : (members.read? "omitRequestBody" bool).map (fun found => found.getD false) =
    .ok parts.omitBody
  ignored : (members.read? "fieldsToIgnore" (list FieldPath.read)).map
    (fun found => found.getD []) = .ok parts.ignored
  query : (members.read? "queryParams" (optional (table json))).map Option.join =
    .ok parts.query
  wrapper : (members.read? "deployAsField" (optional (string "a string"))).map Option.join =
    .ok parts.wrapper

theorem finish_eq_ok {s : Draft} {parts : EndpointParts} : shape.finish s = .ok parts ↔
    s.url = some parts.url ∧ s.method = some parts.method ∧
      s.urlParams.getD Table.empty = parts.urlParams ∧ s.omitBody.getD false = parts.omitBody ∧
        s.ignored.getD [] = parts.ignored ∧ s.query.join = parts.query ∧
          s.wrapper.join = parts.wrapper := by
  obtain ⟨url, method, urlParams, omitBody, ignored, query, wrapper⟩ := parts
  simp only [shape]
  cases s.url with
  | none => simp
  | some found => cases s.method <;> simp

/-- The parts of an endpoint are read from an object if and only if its members give them and
it has no others. -/
theorem read_iff {surplus : Surplus} {members : Fields} {parts : EndpointParts}
    (hdistinct : members.Distinct) :
    record shape surplus (.ofJson (.object members)) = .ok parts ↔
      (∀ name ∈ members.names, name ∈ shape.fields) ∧ parts.GivenBy members := by
  constructor
  · intro h
    have hknown := Shape.known_of_record rfl h
    obtain ⟨s, hread, hfinish⟩ := slots_shape.exists_finish_of_record hdistinct hknown h
    simp only [List.forall_mem_cons] at hread
    obtain ⟨url, method, urlParams, omitBody, ignored, query, wrapper, -⟩ := hread
    obtain ⟨hurl, hmethod, hurlParams, homitBody, hignored, hquery, hwrapper⟩ :=
      finish_eq_ok.mp hfinish
    refine ⟨hknown, ⟨hurl ▸ url, hmethod ▸ method, ?_, ?_, ?_, ?_, ?_⟩⟩
    · rw [urlParams, ← hurlParams, Except.map]
    · rw [omitBody, ← homitBody, Except.map]
    · rw [ignored, ← hignored, Except.map]
    · rw [query, ← hquery, Except.map]
    · rw [wrapper, ← hwrapper, Except.map]
  · rintro ⟨hknown, hurl, hmethod, hurlParams, homitBody, hignored, hquery, hwrapper⟩
    obtain ⟨urlParams, hurlParams, hurlParams'⟩ := map_eq_ok.mp hurlParams
    obtain ⟨omitBody, homitBody, homitBody'⟩ := map_eq_ok.mp homitBody
    obtain ⟨ignored, hignored, hignored'⟩ := map_eq_ok.mp hignored
    obtain ⟨query, hquery, hquery'⟩ := map_eq_ok.mp hquery
    obtain ⟨wrapper, hwrapper, hwrapper'⟩ := map_eq_ok.mp hwrapper
    refine slots_shape.record_eq_ok hdistinct hknown ?_ ?_
    · simp [hurl, hmethod, hurlParams, homitBody, hignored, hquery, hwrapper]
    · intro s hs
      simp only [List.forall_mem_cons, hurl, hmethod, hurlParams, homitBody, hignored, hquery,
        hwrapper, Except.ok.injEq] at hs
      obtain ⟨url', method', rfl, rfl, rfl, rfl, rfl, -⟩ := hs
      exact finish_eq_ok.mpr ⟨url'.symm, method'.symm, hurlParams', homitBody', hignored',
        hquery', hwrapper'⟩

/-- The template and the paths of parts that were read are read back. -/
theorem reads_back {surplus : Surplus} {d : Document} {parts : EndpointParts}
    (h : record shape surplus d = .ok parts) :
    UrlTemplate.read (.ofJson (.string parts.url.text)) = .ok parts.url ∧
      table FieldPath.read (.ofJson
        (.object (parts.urlParams.mapValues fun path => .string path.text).entries)) =
          .ok parts.urlParams ∧
        list FieldPath.read
          (.ofJson (.array (parts.ignored.map fun path => .string path.text))) =
            .ok parts.ignored := by
  obtain ⟨s, hs, hfinish⟩ := Shape.exists_drafted h
  have hread := slots_shape.exists_read hs
  simp only [List.forall_mem_cons] at hread
  obtain ⟨hurl, _, hurlParams, _, hignored, -⟩ := hread
  obtain ⟨hurl', _, hurlParams', _, hignored', _⟩ := finish_eq_ok.mp hfinish
  obtain ⟨d', hd'⟩ := hurl parts.url hurl'
  have hnone : table FieldPath.read (.ofJson (.object
      ((Table.empty : Table FieldPath).mapValues fun path => .string path.text).entries)) =
        .ok Table.empty := rfl
  have hnil : list FieldPath.read
      (.ofJson (.array (([] : List FieldPath).map fun path => .string path.text))) = .ok [] := rfl
  rw [← hurlParams', ← hignored']
  exact ⟨UrlTemplate.faithful d' parts.url hd',
    (table_faithful FieldPath.faithful).getD hurlParams hnone,
    (list_faithful FieldPath.faithful).getD hignored hnil⟩

/-! ## From parts to endpoints -/

/-- The query parameters of an endpoint, those of its parts as texts. -/
def textsOf (query : Table Json) : Table String := query.mapValues fun value =>
  value.scalarText?.getD ""

/-- Every query parameter has a text. -/
def Scalars (query : Table Json) : Prop := ∀ entry ∈ query.entries, entry.2.scalarText?.isSome

theorem queryTexts_eq_ok {parts : EndpointParts} {found : Option (Table String)} :
    parts.queryTexts = .ok found ↔
      (∀ query, parts.query = some query → Scalars query) ∧ parts.query.map textsOf = found := by
  rw [queryTexts]
  cases parts.query with
  | none => simp
  | some query =>
    dsimp only
    cases hfind : query.entries.find? fun entry => entry.2.scalarText?.isNone with
    | none =>
      have hall : Scalars query := fun entry hentry => by
        have hnone := List.find?_eq_none.mp hfind entry hentry
        rw [Option.isSome_iff_ne_none]
        simpa using hnone
      simp [textsOf, hall]
    | some entry =>
      have hmem := List.mem_of_find?_eq_some hfind
      have hnone := List.find?_some hfind
      constructor
      · intro h
        cases h
      · rintro ⟨hall, _⟩
        have hsome := hall query rfl entry hmem
        rw [Option.isNone_iff_eq_none.mp hnone] at hsome
        cases hsome

/-- The endpoint that parts give with some query parameters. -/
def withQuery (parts : EndpointParts) (query : Option (Table String)) : Endpoint where
  url := parts.url
  method := parts.method
  urlParams := parts.urlParams
  omitBody := parts.omitBody
  ignored := parts.ignored
  query
  wrapper := parts.wrapper

/-- Parts make an endpoint if and only if the ignored paths start at the entity and every query
parameter has a text. -/
theorem toEndpoint_eq_ok {parts : EndpointParts} {endpoint : Endpoint} :
    parts.toEndpoint = .ok endpoint ↔
      (∀ path ∈ parts.ignored, path.root = .value) ∧
        (∀ query, parts.query = some query → Scalars query) ∧
          parts.withQuery (parts.query.map textsOf) = endpoint := by
  rw [toEndpoint]
  cases hfind : parts.ignored.find? fun path => path.root ≠ .value with
  | some path =>
    have hpath := List.mem_of_find?_eq_some hfind
    have hroot := List.find?_some hfind
    constructor
    · intro h
      cases h
    · rintro ⟨hall, _⟩
      simp [hall path hpath] at hroot
  | none =>
    have hall : ∀ path ∈ parts.ignored, path.root = .value := fun path hpath => by
      simpa using List.find?_eq_none.mp hfind path hpath
    dsimp only
    rw [bind_eq_ok]
    constructor
    · rintro ⟨query, hquery, hendpoint⟩
      obtain ⟨hscalars, rfl⟩ := queryTexts_eq_ok.mp hquery
      exact ⟨hall, hscalars, Except.ok.inj hendpoint⟩
    · rintro ⟨_, hscalars, rfl⟩
      exact ⟨_, queryTexts_eq_ok.mpr ⟨hscalars, rfl⟩, rfl⟩

end EndpointParts

namespace Endpoint

theorem read_eq_ok {d : Document} {endpoint : Endpoint} : Endpoint.read d = .ok endpoint ↔
    ∃ parts, record EndpointParts.shape .malformed d = .ok parts ∧
      parts.toEndpoint = .ok endpoint := by
  rw [Endpoint.read, bind_eq_ok]
  refine exists_congr fun parts => and_congr_right fun _ => ?_
  cases parts.toEndpoint with
  | ok found => simp [pure, Except.pure]
  | error e => simp [fail_ne_ok]

/-! ## What is written of an endpoint -/

/-- The members of what is written of an endpoint. -/
def members (endpoint : Endpoint) : Fields :=
  match endpoint.toJson with
  | .object members => members
  | _ => []

theorem toJson_eq (endpoint : Endpoint) : endpoint.toJson = .object endpoint.members := rfl

theorem names_members_sublist (endpoint : Endpoint) :
    endpoint.members.names.Sublist EndpointParts.shape.fields := by
  simp only [members, toJson, Fields.names_append]
  have hfixed : (["url", "method"] : List String).Sublist ["url", "method"] := .refl _
  exact ((((hfixed.append (Fields.names_ite_sublist _)).append (.refl ["omitRequestBody"])).append
    (Fields.names_ite_sublist _)).append (Fields.names_option_sublist _ _)).append
      (Fields.names_option_sublist _ _)

/-- The parts that what is written of an endpoint gives. -/
def parts (endpoint : Endpoint) : EndpointParts where
  url := endpoint.url
  method := endpoint.method
  urlParams := endpoint.urlParams
  omitBody := endpoint.omitBody
  ignored := endpoint.ignored
  query := endpoint.query.map fun query => query.mapValues Json.string
  wrapper := endpoint.wrapper

theorem toEndpoint_parts {endpoint : Endpoint}
    (h : ∀ path ∈ endpoint.ignored, path.root = .value) :
    endpoint.parts.toEndpoint = .ok endpoint := by
  refine EndpointParts.toEndpoint_eq_ok.mpr ⟨h, ?_, ?_⟩
  · intro query hquery entry hentry
    obtain ⟨texts, _, rfl⟩ := Option.map_eq_some_iff.mp hquery
    obtain ⟨entry, _, rfl⟩ := List.mem_map.mp hentry
    rfl
  · have htexts : endpoint.parts.query.map EndpointParts.textsOf = endpoint.query := by
      rw [parts, Option.map_map]
      cases endpoint.query with
      | none => rfl
      | some query =>
        rw [Option.map_some, Function.comp_apply, EndpointParts.textsOf, Table.mapValues_mapValues]
        exact congrArg some (Table.mapValues_eq_self (fun _ => rfl) query)
    rw [htexts]
    rfl

theorem get?_members_urlParams (endpoint : Endpoint) :
    endpoint.members.get? "urlParamsToFields" = if endpoint.urlParams.isEmpty then none
      else some (.object (endpoint.urlParams.mapValues fun path => .string path.text).entries) := by
  simp [members, toJson, Table.mapValues_mapValues, Fields.get?_append, Fields.get?_cons,
    Fields.get?_ite, Fields.get?_option]

theorem get?_members_ignored (endpoint : Endpoint) :
    endpoint.members.get? "fieldsToIgnore" = if endpoint.ignored.isEmpty then none
      else some (.array (endpoint.ignored.map fun path => .string path.text)) := by
  simp [members, toJson, Fields.get?_append, Fields.get?_cons, Fields.get?_ite,
    Fields.get?_option]

theorem get?_members_query (endpoint : Endpoint) : endpoint.members.get? "queryParams" =
    endpoint.parts.query.map fun query => .object query.entries := by
  simp [members, toJson, parts, Fields.get?_append, Fields.get?_cons, Fields.get?_ite,
    Fields.get?_option, Function.comp_def]

theorem get?_members_wrapper (endpoint : Endpoint) :
    endpoint.members.get? "deployAsField" = endpoint.wrapper.map Json.string := by
  simp [members, toJson, Fields.get?_append, Fields.get?_cons, Fields.get?_ite,
    Fields.get?_option]

/-- Texts are values that are read as they are. -/
theorem read_strings (texts : Table String) :
    table json (.ofJson (.object (texts.mapValues Json.string).entries)) =
      .ok (texts.mapValues Json.string) := by
  have hvalues : ∀ entry ∈ (texts.mapValues Json.string).entries,
      json (.ofJson (id entry.2)) = .ok entry.2 := by
    intro entry hentry
    obtain ⟨entry, _, rfl⟩ := List.mem_map.mp hentry
    rfl
  have hsame : (texts.mapValues Json.string).mapValues id = texts.mapValues Json.string :=
    Table.mapValues_eq_self (fun _ => rfl) _
  have hread := table_ofJson hvalues
  rwa [hsame] at hread

theorem givenBy_members {endpoint : Endpoint}
    (hurl : UrlTemplate.read (.ofJson (.string endpoint.url.text)) = .ok endpoint.url)
    (hurlParams : table FieldPath.read (.ofJson
      (.object (endpoint.urlParams.mapValues fun path => .string path.text).entries)) =
        .ok endpoint.urlParams)
    (hignored : list FieldPath.read
      (.ofJson (.array (endpoint.ignored.map fun path => .string path.text))) =
        .ok endpoint.ignored) :
    endpoint.parts.GivenBy endpoint.members where
  url := by
    have hget : endpoint.members.get? "url" = some (.string endpoint.url.text) := rfl
    rw [Fields.read?_of_some hget, hurl]
    rfl
  method := by
    have hget : endpoint.members.get? "method" = some (.string endpoint.method.text) := rfl
    rw [Fields.read?_of_some hget, HttpMethod.read_text]
    rfl
  urlParams := Fields.read?_getD endpoint.get?_members_urlParams
    (fun hempty => (Table.eq_empty_of_isEmpty hempty).symm) hurlParams
  omitBody := by
    have hget : endpoint.members.get? "omitRequestBody" = some (.bool endpoint.omitBody) := by
      simp [members, toJson, Fields.get?_append, Fields.get?_cons, Fields.get?_ite]
    rw [Fields.read?_of_some hget]
    rfl
  ignored := Fields.read?_getD endpoint.get?_members_ignored
    (fun hempty => (List.isEmpty_iff.mp hempty).symm) hignored
  query := by
    refine Fields.read?_join endpoint.get?_members_query fun values hvalues => ?_
    obtain ⟨texts, _, rfl⟩ := Option.map_eq_some_iff.mp hvalues
    change (table json _).map some = _
    rw [read_strings]
    rfl
  wrapper := Fields.read?_join endpoint.get?_members_wrapper fun _ _ => rfl

theorem read_toJson {endpoint : Endpoint}
    (hurl : UrlTemplate.read (.ofJson (.string endpoint.url.text)) = .ok endpoint.url)
    (hurlParams : table FieldPath.read (.ofJson
      (.object (endpoint.urlParams.mapValues fun path => .string path.text).entries)) =
        .ok endpoint.urlParams)
    (hignored : list FieldPath.read
      (.ofJson (.array (endpoint.ignored.map fun path => .string path.text))) =
        .ok endpoint.ignored)
    (hroots : ∀ path ∈ endpoint.ignored, path.root = .value) :
    Endpoint.read (.ofJson endpoint.toJson) = .ok endpoint := by
  have hgiven := givenBy_members hurl hurlParams hignored
  have hnames := endpoint.names_members_sublist
  have hdistinct : endpoint.members.Distinct := EndpointParts.slots_shape.distinct.sublist hnames
  have hknown : ∀ name ∈ endpoint.members.names, name ∈ EndpointParts.shape.fields :=
    fun _ hname => hnames.subset hname
  exact read_eq_ok.mpr ⟨endpoint.parts,
    (EndpointParts.read_iff hdistinct).mpr ⟨hknown, hgiven⟩, toEndpoint_parts hroots⟩

theorem faithful : Faithful Endpoint.read Endpoint.toJson := by
  intro d endpoint h
  obtain ⟨parts, hparts, hendpoint⟩ := read_eq_ok.mp h
  obtain ⟨hurl, hurlParams, hignored⟩ := EndpointParts.reads_back hparts
  obtain ⟨hroots, _, rfl⟩ := EndpointParts.toEndpoint_eq_ok.mp hendpoint
  exact read_toJson hurl hurlParams hignored hroots

end Endpoint

end Rollout
