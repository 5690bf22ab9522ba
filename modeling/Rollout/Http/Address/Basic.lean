import Rollout.Table
import Rollout.Text.Percent

/-!
# Addresses

The address that a URL names, and its text.
-/

namespace Rollout

/-- What an address leads to at its host. -/
inductive AddressPath where
  /-- A text of its own kind, as in `mailto:someone`. -/
  | rootless (text : String)
  /-- What stands after each slash. -/
  | segments (list : List String)
deriving DecidableEq

/-- Who asks, by a name and a password that is empty if there is none. Both are percent
encoded, and one of them is not empty. -/
structure Credentials where
  name : String
  password : String
deriving DecidableEq

structure Address where
  scheme : String
  credentials : Option Credentials
  host : Option String
  port : Option Nat
  path : AddressPath
  query : Option String
  fragment : Option String
deriving DecidableEq

/-! ## Credentials -/

namespace Credentials

def text (credentials : Credentials) : String :=
  let password := if credentials.password = "" then "" else ":" ++ credentials.password
  credentials.name ++ password ++ "@"

/-- The name and password meant, if they can be passed on: the name has to be text, and a
password that is not is left out. -/
def decoded? (credentials : Credentials) : Option (String × Option String) := do
  let name ← Text.percentDecode? credentials.name
  let password? :=
    if credentials.password = "" then none else Text.percentDecode? credentials.password
  if name = "" ∧ password? = none then none
  return (name, password?)

end Credentials

/-! ## Text -/

def AddressPath.text : AddressPath → String
  | .rootless text => text
  | .segments list => String.join (list.map fun segment => "/" ++ segment)

namespace Address

private def textAfter (mark : String) (part : Option String) : String :=
  (part.map fun text => mark ++ text).getD ""

/-- The text of a path. Where no host precedes it, it must not start with two slashes. -/
private def pathText (address : Address) : String :=
  match address.host, address.path with
  | none, .segments ("" :: segment :: rest) =>
    "/." ++ AddressPath.text (.segments ("" :: segment :: rest))
  | _, path => AddressPath.text path

def text (address : Address) : String :=
  let slashes := if address.host.isSome then "//" else ""
  let credentials := (address.credentials.map Credentials.text).getD ""
  let port := textAfter ":" (address.port.map toString)
  address.scheme ++ ":" ++ slashes ++ credentials ++ address.host.getD "" ++ port ++
    pathText address ++ textAfter "?" address.query ++ textAfter "#" address.fragment

/-! ## Requests -/

/-- The most bytes that the text of an address may have in a request. -/
def longestText : Nat := 65534

/-- Whether a request can name an address: its host has no quotation mark, grave accent or
brace, and its text is not too long. -/
def isRequestable (address : Address) : Bool :=
  let odd (c : Char) : Bool := c = '"' || c = '\x60' || c = '\x7b' || c = '\x7d'
  !((address.host.getD "").toList.any odd) && address.text.utf8ByteSize ≤ longestText

/-- The credentials of an address that are passed on, and the address without them. Those
that cannot be passed on stay in it. -/
def takeCredentials (address : Address) : Option (String × Option String) × Address :=
  match address.credentials.bind Credentials.decoded? with
  | some found => (some found, { address with credentials := none })
  | none => (none, address)

/-- Adds parameters to the query, form encoded. An empty query is left out. -/
def addQuery (address : Address) (params : Table String) : Address :=
  let added := params.entries.map fun (name, value) =>
    Text.formEncode name ++ "=" ++ Text.formEncode value
  let present := (address.query.toList).filter (· ≠ "")
  let query := "&".intercalate (present ++ added)
  { address with query := if query = "" then none else some query }

end Address

end Rollout
