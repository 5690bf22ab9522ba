import Rollout.Element.Permitted
import Rollout.Endpoint.Config
import Rollout.Request.Url

/-!
# Requests of changes

The request of a change is shaped by the endpoint of its action: the URL is filled in from
the whole entity, the body holds the permitted part of its value.
-/

namespace Rollout

/-- A request, ready to be sent. -/
structure Request where
  method : HttpMethod
  url : String
  data : Option Json
  query : Option (Table String)

namespace Request

private def optionJson (value : Option Json) : Json := value.getD .null

private def queryJson (query : Option (Table String)) : Json :=
  optionJson (query.map fun table => .object (table.mapValues Json.string).entries)

/-- What the request is made with, the method aside. -/
def argumentsJson (request : Request) : Json :=
  .object [("url", .string request.url), ("data", optionJson request.data),
    ("queryParams", queryJson request.query)]

def toJson (request : Request) : Json :=
  .object [("method", .string request.method.text), ("url", .string request.url),
    ("data", optionJson request.data), ("queryParams", queryJson request.query)]

end Request

namespace Change

/-- The values that an endpoint sends of a change. -/
def sentValues (change : Change) (endpoint : Endpoint) (leftOut : LeftOut) : Fields :=
  Fields.withoutIgnored (change.data.permittedValue change.action) change.elemId
    endpoint.ignored leftOut

/-- The body of a request, the values wrapped if the endpoint says so. -/
def body (change : Change) (endpoint : Endpoint) (leftOut : LeftOut) : Option Json :=
  if endpoint.omitBody then none
  else
    let values := Json.object (change.sentValues endpoint leftOut)
    match endpoint.wrapper with
    | some field => some (.object [(field, values)])
    | none => some values

def requestFor (change : Change) (endpoint : Endpoint) (leftOut : LeftOut) :
    Warned BuildError Request :=
  let built := endpoint.url.fill endpoint.urlParams change.data
  ⟨built.outcome.map fun built =>
      ⟨endpoint.method, built.url, change.body endpoint leftOut, endpoint.query⟩,
    built.warnings⟩

/-- The request of a change to the endpoint of its action. -/
def request (change : Change) (endpoints : Endpoints) (leftOut : LeftOut) :
    Warned BuildError Request :=
  match endpoints.forAction change.action with
  | some endpoint => change.requestFor endpoint leftOut
  | none => ⟨.error (.missingEndpoint change.action change.data.typeName), []⟩

end Change

end Rollout
