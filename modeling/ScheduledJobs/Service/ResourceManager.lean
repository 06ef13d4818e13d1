import ScheduledJobs.Address
import ScheduledJobs.Definition.Reading
import ScheduledJobs.Definition.Writing
import ScheduledJobs.Document.Json.Parser
import ScheduledJobs.Document.Json.Printer
import ScheduledJobs.Environment
import ScheduledJobs.JobId
import ScheduledJobs.Service.Basic
import ScheduledJobs.Text.Segments

/-!
# The resource manager

Jobs of the cloud are reached under an address that is made of the endpoint of
the environment, the id of the job and the version of the interface. A request
that cannot be built is refused before it is sent, and the response to any other
one is judged by its status code.
-/

namespace ScheduledJobs

open Document Text

/-- Access to the resource manager of an environment. -/
structure ResourceManager where
  endpoint : String
  apiVersion : String
  token : String
  deriving DecidableEq

namespace ResourceManager

def withToken (environment : Environment) (token : String) :
    ResourceManager where
  endpoint := String.ofList (trimEnd '/' environment.resourceEndpoint.toList)
  apiVersion := environment.apiVersion
  token := token

/-- Access with the token that an environment variable holds. -/
def fromVariable (environment : Environment) (token? : Option String) :
    Except Service.Error ResourceManager :=
  match token? with
  | some token => .ok (withToken environment token)
  | none =>
      .error (.credentials
        ("set " ++ environment.tokenVariable ++ " to an ARM access token"))

def url (manager : ResourceManager) (id : JobId) : String :=
  manager.endpoint ++ id.text ++ "?api-version=" ++ manager.apiVersion

/-- Whether the token can be part of a header. -/
def isSendable (token : String) : Bool :=
  token.toList.all fun character =>
    (0x20 ≤ character.toNat || character == '\t') && character.toNat != 0x7F

/-- What a request asks for. -/
inductive Method where
  | put
  | get
  | delete
  deriving DecidableEq

/-- A request as it is sent. -/
structure Request where
  method : Method
  address : Address
  /-- The token that authorizes the request. -/
  token : String
  /-- The octets of the JSON document that is sent along. -/
  payload : Option (List UInt8)

/-- The last response to a request, when redirections have been followed. -/
structure Response where
  code : Nat
  /-- The octets of the body, or why it cannot be read to its end. -/
  body : Except String (List UInt8)

/-- What becomes of requests that are sent: there is a response, or a reason why
there is none, and the state of the world changes. -/
def Network (State : Type) : Type :=
  Request → State → Except String Response × State

/-- The request for a job. It cannot be built when it does not lead to a host on
the web, which is named in the normal form of its address, or when the address
or the token cannot be read. -/
def request (manager : ResourceManager) (method : Method) (id : JobId)
    (payload : Option (List UInt8)) : Except Service.Error Request :=
  match Address.ofText? (manager.url id) with
  | none => .error (.request "builder error")
  | some address =>
      if address.hasHost && !isSendable manager.token then
        .error (.request "builder error")
      else if address.hasHost && address.isWeb then
        .ok { method, address, token := manager.token, payload }
      else
        .error (.request ("builder error for url (" ++ address.text ++ ")"))

namespace Response

/-- The text of the body, or none when it cannot be read. -/
def message (response : Response) : String :=
  match response.body with
  | .ok octets => String.ofList (Utf8.decodeLossy octets)
  | .error _ => ""

/-- The response, unless its status code tells that the request has failed. -/
def checked (response : Response) : Except Service.Error Response :=
  if response.code = 404 then .error .notFound
  else if 200 ≤ response.code ∧ response.code < 300 then .ok response
  else .error (.status response.code response.message)

/-- The definition that is in the body. -/
def definition (response : Response) : Except Service.Error Definition :=
  match response.body with
  | .error reason => .error (.decode reason)
  | .ok octets =>
      match (Json.ofOctets? octets).map Definition.read with
      | some (.ok definition) => .ok definition
      | _ => .error (.decode "error decoding response body")

end Response

section

variable {State : Type} (manager : ResourceManager) (network : Network State)

def send (method : Method) (id : JobId) (payload : Option (List UInt8))
    (state : State) : Except Service.Error Response × State :=
  match manager.request method id payload with
  | .error error => (.error error, state)
  | .ok request =>
      match network request state with
      | (.error reason, next) => (.error (.request reason), next)
      | (.ok response, next) => (response.checked, next)

/-- The service behind the resource manager. -/
def serviceOver : Service State where
  createOrUpdate id definition state :=
    let payload := Utf8.encode (Json.render definition.toValue)
    let (sent, next) := manager.send network .put id (some payload) state
    (sent.bind Response.definition, next)
  get id state :=
    let (sent, next) := manager.send network .get id none state
    (sent.bind Response.definition, next)
  delete id state :=
    let (sent, next) := manager.send network .delete id none state
    (sent.map fun _ => (), next)

/-- The network of a machine that no request leaves. -/
def unreachable : Network State := fun request state =>
  (.error ("error sending request for url (" ++ request.address.text ++ ")"),
    state)

/-- The service when no request leaves the machine. -/
def service : Service State := manager.serviceOver unreachable

end

end ResourceManager

end ScheduledJobs
