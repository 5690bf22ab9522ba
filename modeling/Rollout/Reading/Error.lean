import Rollout.Endpoint.Definition
import Rollout.Json.Document

/-!
# Why a document is not read

A document is refused because its text is at fault, or because it is not of the type that is
read. The first problem in document order is the one reported.
-/

namespace Rollout

/-- What a document holds in place of what was expected. -/
inductive Found where
  | null
  | bool (value : Bool)
  | number (value : Number)
  | string (value : String)
  | sequence
  | map

/-- Why JSON text is not of the type that is read. -/
inductive DataError where
  | wrongType (found : Found) (expected : String)
  | missingField (name : String)
  | duplicateField (name : String)
  | unknownField (name : String) (known : List String)
  | unknownVariant (name : String) (known : List String)
  | wrongLength (length : Nat) (expected : String)
  | elemId (error : ElemIdError)
  | path (error : PathError)
  | template (error : TemplateError)
  | endpoint (error : EndpointError)

/-- Why a document is not read. -/
inductive ReadError where
  | fault (fault : Fault)
  | data (error : DataError)

def Found.text : Found → String
  | .null => "null"
  | .bool value => "boolean `" ++ (if value then "true" else "false") ++ "`"
  | .number (.int value) => "integer `" ++ toString value ++ "`"
  | .number (.float value) => "floating point `" ++ (Number.float value).text ++ "`"
  | .string value => "string " ++ Text.quote value
  | .sequence => "sequence"
  | .map => "map"

namespace DataError

private def names (known : List String) : String :=
  ", ".intercalate (known.map fun name => "`" ++ name ++ "`")

def message : DataError → String
  | .wrongType found expected => "invalid type: " ++ found.text ++ ", expected " ++ expected
  | .missingField name => "missing field `" ++ name ++ "`"
  | .duplicateField name => "duplicate field `" ++ name ++ "`"
  | .unknownField name known =>
    "unknown field `" ++ name ++ "`, expected one of " ++ names known
  | .unknownVariant name known =>
    "unknown variant `" ++ name ++ "`, expected one of " ++ names known
  | .wrongLength length expected =>
    "invalid length " ++ toString length ++ ", expected " ++ expected
  | .elemId error => error.message
  | .path error => error.message
  | .template error => error.message
  | .endpoint error => error.message

end DataError

end Rollout
