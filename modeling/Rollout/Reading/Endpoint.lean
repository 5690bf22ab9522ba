import Rollout.Endpoint.Config
import Rollout.Reading.Basic

/-!
# Reading deploy configurations

Endpoint definitions are checked as they are read, so a configuration that is read at all
has no template, path or query parameter that could not work. Every mapped name that the URL
of its endpoint does not use is reported, in the order in which endpoints are read, and also
for an endpoint that a later one of the same name replaces.
-/

namespace Rollout

def FieldPath.read (d : Document) : Read FieldPath := Read.parsed FieldPath.ofText .path d

def UrlTemplate.read (d : Document) : Read UrlTemplate :=
  Read.parsed UrlTemplate.ofText .template d

def HttpMethod.read (d : Document) : Read HttpMethod :=
  Read.unitVariant HttpMethod.all HttpMethod.text d

namespace EndpointParts

structure Draft where
  url : Option UrlTemplate
  method : Option HttpMethod
  urlParams : Option (Table FieldPath)
  omitBody : Option Bool
  ignored : Option (List FieldPath)
  query : Option (Option (Table Json))
  wrapper : Option (Option String)

def shape : Read.Shape Draft EndpointParts where
  expected := "struct RawEndpointDefinition"
  fields := ["url", "method", "urlParamsToFields", "omitRequestBody", "fieldsToIgnore",
    "queryParams", "deployAsField"]
  closed := true
  draft := ⟨none, none, none, none, none, none, none⟩
  take s name d :=
    match name with
    | "url" => do return { s with url := some (← UrlTemplate.read d) }
    | "method" => do return { s with method := some (← HttpMethod.read d) }
    | "urlParamsToFields" => do
      return { s with urlParams := some (← Read.table FieldPath.read d) }
    | "omitRequestBody" => do return { s with omitBody := some (← Read.bool d) }
    | "fieldsToIgnore" => do return { s with ignored := some (← Read.list FieldPath.read d) }
    | "queryParams" => do
      return { s with query := some (← Read.optional (Read.table Read.json) d) }
    | "deployAsField" => do
      return { s with wrapper := some (← Read.optional (Read.string "a string") d) }
    | _ => .ok s
  finish s :=
    match s.url, s.method with
    | some url, some method =>
      .ok ⟨url, method, s.urlParams.getD Table.empty, s.omitBody.getD false,
        s.ignored.getD [], s.query.join, s.wrapper.join⟩
    | none, _ => .error "url"
    | some _, none => .error "method"

end EndpointParts

def Endpoint.read (d : Document) : Read Endpoint := do
  let parts ← Read.record EndpointParts.shape .malformed d
  match parts.toEndpoint with
  | .ok endpoint => return endpoint
  | .error e => Read.fail (.endpoint e)

namespace Endpoints

/-- The endpoints given so far, and the mapped names found unused. -/
structure Draft where
  add : Option (Option Endpoint)
  modify : Option (Option Endpoint)
  remove : Option (Option Endpoint)
  unused : List UnusedParam

/-- The mapped names that an endpoint, if there is one, does not use. -/
def unusedOf (endpoint : Option Endpoint) : List UnusedParam :=
  (endpoint.map Endpoint.unusedParams).getD []

def shape : Read.Shape Draft (Endpoints × List UnusedParam) where
  expected := "struct DeploymentRequestsByAction"
  fields := ["add", "modify", "remove"]
  closed := true
  draft := ⟨none, none, none, []⟩
  take s name d := do
    let endpoint ← Read.optional Endpoint.read d
    let s := { s with unused := s.unused ++ unusedOf endpoint }
    match name with
    | "add" => return { s with add := some endpoint }
    | "modify" => return { s with modify := some endpoint }
    | "remove" => return { s with remove := some endpoint }
    | _ => return s
  finish s := .ok (⟨s.add.join, s.modify.join, s.remove.join⟩, s.unused)

def read (d : Document) : Read (Endpoints × List UnusedParam) :=
  Read.record shape .malformed d

end Endpoints

namespace TypeConfig

def shape :
    Read.Shape (Option (Endpoints × List UnusedParam)) (TypeConfig × List UnusedParam) where
  expected := "struct TypeDeployConfig"
  fields := ["deployRequests"]
  closed := false
  draft := none
  take s name d :=
    match name with
    | "deployRequests" => do return some (← Endpoints.read d)
    | _ => .ok s
  finish s :=
    let (endpoints, unused) := s.getD (.unconfigured, [])
    .ok (⟨endpoints⟩, unused)

def read (d : Document) : Read (TypeConfig × List UnusedParam) :=
  Read.record shape .malformed d

end TypeConfig

namespace DeployConfig

/-- The types of a configuration, and the mapped names found unused. -/
abbrev Draft := Table TypeConfig × List UnusedParam

/-- Takes in what is configured for a type. -/
def takeType (s : Draft) (name : String) (d : Document) : Read Draft := do
  let (config, unused) ← TypeConfig.read d
  return (s.1.insert name config, s.2 ++ unused)

def shape : Read.Shape (Option Draft) (DeployConfig × List UnusedParam) where
  expected := "struct DeployConfig"
  fields := ["types"]
  closed := false
  draft := none
  take s name d :=
    match name with
    | "types" => do return some (← Read.members takeType (Table.empty, []) d)
    | _ => .ok s
  finish s :=
    let (types, unused) := s.getD (Table.empty, [])
    .ok (⟨types⟩, unused)

def read (d : Document) : Read (DeployConfig × List UnusedParam) :=
  Read.record shape .malformed d

end DeployConfig

end Rollout
