import Rollout.Element.Change
import Rollout.Endpoint.Template
import Rollout.Http.Method
import Rollout.Path.FieldPath

/-!
# Endpoint definitions

An endpoint tells how one action on one type of entity is requested. It is put together from
declared parts, which are checked before any change is sent.
-/

namespace Rollout

/-- How one action on one type of entity is requested. -/
structure Endpoint where
  url : UrlTemplate
  method : HttpMethod
  /-- Where the placeholders of the URL take their values from. -/
  urlParams : Table FieldPath
  omitBody : Bool
  /-- What is left out of the body. -/
  ignored : List FieldPath
  query : Option (Table String)
  /-- The one field of the body that holds the values, if they are wrapped. -/
  wrapper : Option String
deriving DecidableEq

/-- What is declared of an endpoint: query parameters may still have any value. -/
structure EndpointParts where
  url : UrlTemplate
  method : HttpMethod
  urlParams : Table FieldPath
  omitBody : Bool
  ignored : List FieldPath
  query : Option (Table Json)
  wrapper : Option String

inductive EndpointError where
  | ignoredAncestor (path : FieldPath) (url : UrlTemplate)
  | queryValue (name : String) (url : UrlTemplate) (value : Json)

/-- A mapped name that is no placeholder of the URL; the entry has no effect. -/
structure UnusedParam where
  name : String
  url : UrlTemplate
deriving DecidableEq

def EndpointError.message : EndpointError → String
  | .ignoredAncestor path url =>
    "fieldsToIgnore entry " ++ path.text ++ " of " ++ url.text ++
      " does not name a field of the entity"
  | .queryValue name url value =>
    "query parameter " ++ name ++ " of " ++ url.text ++
      " must be a string, number or boolean, got " ++ value.text

def UnusedParam.message (unused : UnusedParam) : String :=
  "urlParamsToFields entry " ++ unused.name ++ " does not occur in URL " ++ unused.url.text ++
    "; it is ignored"

/-- The text of a string, number or truth value. -/
def Json.scalarText? : Json → Option String
  | .string value => some value
  | .number value => some value.text
  | .bool value => some (if value then "true" else "false")
  | _ => none

namespace EndpointParts

/-- The query parameters as texts. -/
def queryTexts (parts : EndpointParts) : Except EndpointError (Option (Table String)) :=
  match parts.query with
  | none => .ok none
  | some query =>
    match query.entries.find? fun entry => entry.2.scalarText?.isNone with
    | some (name, value) => .error (.queryValue name parts.url value)
    | none => .ok (some (query.mapValues fun value => value.scalarText?.getD ""))

/-- The endpoint of declared parts. Ignored paths start at the entity itself. -/
def toEndpoint (parts : EndpointParts) : Except EndpointError Endpoint :=
  match parts.ignored.find? fun path => path.root ≠ .value with
  | some path => .error (.ignoredAncestor path parts.url)
  | none => do
    let query ← parts.queryTexts
    return {
      url := parts.url
      method := parts.method
      urlParams := parts.urlParams
      omitBody := parts.omitBody
      ignored := parts.ignored
      query
      wrapper := parts.wrapper }

end EndpointParts

namespace Endpoint

/-- The mapped names that are no placeholders of the URL, in order. -/
def unusedParams (endpoint : Endpoint) : List UnusedParam :=
  (endpoint.urlParams.names.filter fun name => !endpoint.url.params.contains name).map
    fun name => ⟨name, endpoint.url⟩

def toJson (endpoint : Endpoint) : Json :=
  let texts (table : Table String) : Json := .object (table.mapValues Json.string).entries
  .object <|
    [("url", .string endpoint.url.text), ("method", .string endpoint.method.text)] ++
    (if endpoint.urlParams.isEmpty then []
     else [("urlParamsToFields", texts (endpoint.urlParams.mapValues FieldPath.text))]) ++
    [("omitRequestBody", .bool endpoint.omitBody)] ++
    (if endpoint.ignored.isEmpty then []
     else [("fieldsToIgnore", .array (endpoint.ignored.map fun path => .string path.text))]) ++
    (endpoint.query.map fun query => ("queryParams", texts query)).toList ++
    (endpoint.wrapper.map fun field => ("deployAsField", Json.string field)).toList

end Endpoint

end Rollout
