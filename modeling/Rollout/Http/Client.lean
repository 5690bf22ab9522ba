import Rollout.Http.Address.OfText
import Rollout.Http.Header
import Rollout.Reading.Basic
import Rollout.Request.Service

/-!
# The HTTP client

Requests are addressed relative to a base URL and sent as JSON over a network. The network
is a function of its own state and the message, so that what a client makes of its answers
can be reasoned about.
-/

namespace Rollout.Http

structure Message where
  method : HttpMethod
  address : Address
  headers : List Header
  body : Option String

/-- What the network makes of a message. -/
inductive Delivery where
  /-- There was no answer. -/
  | undelivered
  /-- The answer broke off inside its body. -/
  | brokenOff
  | answered (status : Nat) (body : String)

/-- A network that messages are sent over. -/
structure Network (ν : Type) where
  deliver : ν → Message → Delivery × ν

/-- A network on which no message gets an answer. -/
def Network.unreachable : Network Unit := ⟨fun _ _ => (.undelivered, ())⟩

/-- A client that sends requests relative to a base URL, with some headers each. -/
structure Client where
  baseUrl : String
  headers : List Header

namespace Client

/-- The client of a base URL, of which slashes at the end do not count. -/
def ofBase (baseUrl : String) (headers : List Header) : Client :=
  ⟨String.ofList (baseUrl.toList.reverse.dropWhile (· = '/')).reverse, headers⟩

private def startsWith (start : String) (text : String) : Bool :=
  start.toList.isPrefixOf text.toList

/-- The URL of a request: an absolute one as it is, any other after the base. -/
def fullUrl (client : Client) (url : String) : String :=
  if startsWith "http://" url || startsWith "https://" url then url
  else if startsWith "/" url then client.baseUrl ++ url
  else client.baseUrl ++ "/" ++ url

/-! ## Messages -/

private def base64Digit (n : Nat) : Char :=
  if n < 26 then Char.ofNat ('A'.toNat + n)
  else if n < 52 then Char.ofNat ('a'.toNat + n - 26)
  else if n < 62 then Char.ofNat ('0'.toNat + n - 52)
  else if n = 62 then '+' else '/'

/-- Three bytes in four characters; what is missing at the end is filled with `=`. -/
def base64 : List UInt8 → List Char
  | [] => []
  | [a] =>
    let n := a.toNat * 65536
    [base64Digit (n / 262144), base64Digit (n / 4096 % 64), '=', '=']
  | [a, b] =>
    let n := a.toNat * 65536 + b.toNat * 256
    [base64Digit (n / 262144), base64Digit (n / 4096 % 64), base64Digit (n / 64 % 64), '=']
  | a :: b :: c :: rest =>
    let n := a.toNat * 65536 + b.toNat * 256 + c.toNat
    base64Digit (n / 262144) :: base64Digit (n / 4096 % 64) :: base64Digit (n / 64 % 64) ::
      base64Digit (n % 64) :: base64 rest

/-- The header that passes on the credentials of a URL. -/
def credentialsHeader (credentials : String × Option String) : Header :=
  let text := credentials.1 ++ ":" ++ credentials.2.getD ""
  ⟨"authorization", "Basic " ++ String.ofList (base64 text.toUTF8.toList)⟩

private def hasHeader (headers : List Header) (name : String) : Bool :=
  headers.any fun header => header.name = name

/-- The headers of a message. Those of the client replace what the URL brings along, and
tell the type of the body if one of them does. -/
def messageHeaders (client : Client) (credentials : Option (String × Option String))
    (body : Option String) : List Header :=
  let fromUrl := (credentials.map credentialsHeader).toList.filter fun header =>
    !hasHeader client.headers header.name
  let type :=
    if body.isSome && !hasHeader client.headers "content-type" then
      [⟨"content-type", "application/json"⟩]
    else []
  fromUrl ++ client.headers ++ type

/-- Why a request is not answered. -/
inductive Failure where
  | notUrl
  /-- No request can be sent to the address. -/
  | refused (address : Address)
  | undelivered (address : Address)
  | brokenOff

def Failure.message : Failure → String
  | .notUrl => "builder error"
  | .refused address => "builder error for url (" ++ address.text ++ ")"
  | .undelivered address => "error sending request for url (" ++ address.text ++ ")"
  | .brokenOff => "error decoding response body"

def message (client : Client) (request : Request) : Except Failure Message :=
  match Address.ofText? (client.fullUrl request.url) with
  | none => .error .notUrl
  | some named =>
    let (credentials, named) := named.takeCredentials
    let address := match request.query with
      | some query => named.addQuery query
      | none => named
    if (named.host.getD "") = "" then .error (.refused named)
    else if (address.scheme = "http" ∨ address.scheme = "https") ∧ address.isRequestable then
      let body := request.data.map Json.text
      .ok ⟨request.method, address, client.messageHeaders credentials body, body⟩
    else .error (.refused address)

/-! ## Answers -/

/-- The value of a body: JSON if it is that, else its text, and nothing if it is blank. -/
def bodyValue (body : String) : Json :=
  if body.toList.all Text.isBlank then .null
  else match Read.text Read.json body with
    | .ok value => value
    | .error _ => .string body

def outcome (url : String) (address : Address) : Delivery → Except ClientError Response
  | .undelivered => .error (.request url (Failure.undelivered address).message)
  | .brokenOff => .error (.request url Failure.brokenOff.message)
  | .answered status body =>
    if isSuccessStatus status then .ok ⟨status, bodyValue body⟩
    else .error (.status url status (bodyValue body))

variable {ν : Type}

/-- Sends a request. Nothing goes over the network if its URL is no address of a service. -/
def send (client : Client) (network : Network ν) (state : ν) (request : Request) :
    Except ClientError Response × ν :=
  let url := client.fullUrl request.url
  match client.message request with
  | .error failure => (.error (.request url failure.message), state)
  | .ok message =>
    let (delivery, state) := network.deliver state message
    (outcome url message.address delivery, state)

/-- The service that a client reaches over a network. It asks for no interruption. -/
def service (client : Client) (network : Network ν) : Service ν where
  answer state request :=
    let (outcome, state) := client.send network state request
    (⟨outcome, false⟩, state)

end Client

end Rollout.Http
