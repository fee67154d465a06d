import InterfaceSync.Url.Parser
import InterfaceSync.Wire.Failure
import InterfaceSync.Wire.Payload

/-! The client of the configuration API. It asks for two resources below a base URL and sorts what
comes back into names, entries and errors. The network itself is a parameter. -/

namespace InterfaceSync

inductive Exchange
  /-- The request cannot leave the host, which is known at once. -/
  | unreachable
  /-- The server refuses the connection. -/
  | refused
  /-- The connection ends without an answer. -/
  | closed
  /-- Nothing comes before the time runs out. -/
  | silent
  | answered (status : Nat) (body : String)
  /-- The head of an answer comes, and its body ends too early or is too late. -/
  | cut (status : Nat) (late : Bool)
deriving DecidableEq, Repr, Inhabited

/-- The status of an answer, whether or not all of its body comes. -/
def Exchange.status? : Exchange → Option Nat
  | .answered status _ => some status
  | .cut status _ => some status
  | _ => none

inductive Resource
  | ifnames
  | config
deriving DecidableEq, Repr

/-- The last segment of the path of a resource, which is also its name in messages. -/
def Resource.name : Resource → String
  | .ifnames => "ifnames"
  | .config => "config"

def Resource.other : Resource → Resource
  | .ifnames => .config
  | .config => .ifnames

structure Reply where
  /-- The URL that was asked for, if there was one. -/
  requested : Option Url
  /-- The body of the answer. -/
  result : Except ApiError String
  /-- Whether the result was known as soon as the read began. -/
  atOnce : Bool

structure Client where
  base : Url

namespace Client

/-- The URL of a resource. Slashes at the end of the base do not count. -/
def endpoint (client : Client) (resource : Resource) : Except UrlError Url :=
  let base := (client.base.chars.reverse.dropWhile (· == '/')).reverse
  Url.parseChars (base ++ '/' :: resource.name.toList)

/-- The body that an exchange gives. It is not looked at if the status is none of success. -/
def body (url : Url) : Exchange → Except ApiError String
  | .answered status body =>
    if Status.isSuccess status then .ok body else .error (.status status url.text)
  | .cut status late =>
    .error (if Status.isSuccess status then .transport (.body late) else .status status url.text)
  | .closed => .error (.transport (.closed url.withoutCredentials))
  | .silent => .error (.transport (.timeout url.withoutCredentials))
  | .refused => .error (.transport (.connect (some url.withoutCredentials)))
  | .unreachable => .error (.transport (.connect (some url.withoutCredentials)))

def isHttp (url : Url) : Bool :=
  url.scheme == "http".toList || url.scheme == "https".toList

/-- Characters of a host that no request can name. -/
def isUnsendable (c : Char) : Bool :=
  c == '"' || c == '\x60' || c == '\x7b' || c == '\x7d'

/-- How many bytes a URL may have that is requested. -/
def sendLimit : Nat := 65534

def isSendable (url : Url) : Bool :=
  isHttp url && !url.host.any (·.text.any isUnsendable) &&
    url.withoutCredentials.text.utf8ByteSize ≤ sendLimit

/-- Asks for a resource. Only requests that can be put together are sent to the network. -/
def get {m : Type → Type} [Monad m] (client : Client) (fetch : Url → m Exchange)
    (resource : Resource) : m Reply :=
  match client.endpoint resource with
  | .error cause => pure ⟨none, .error (.invalidUrl cause), true⟩
  | .ok url =>
    if isSendable url then do
      let exchange ← fetch url.withoutCredentials
      return ⟨some url, body url exchange, exchange == .unreachable⟩
    else
      let cause := TransportError.builder (some url.withoutCredentials)
      pure ⟨some url, .error (.transport cause), true⟩

def decodeNames (body : String) : Except ApiError (List String) :=
  match parseNames? body with
  | some names => .ok names
  | none => .error (.undecodable "expected an array of strings" body)

def decodePayload (body : String) : Except ApiError Payload :=
  match Payload.parse? body with
  | some payload => .ok payload
  | none => .error (.undecodable "expected an object" body)

end Client

end InterfaceSync
