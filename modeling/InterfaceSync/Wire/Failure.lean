import InterfaceSync.Url.Basic
import InterfaceSync.Wire.Status

/-! Why a request to the configuration API gave no usable answer. -/

namespace InterfaceSync

/-- A failure below the level of HTTP answers. The URLs are those of the requests, which carry no
user name and password. -/
inductive TransportError
  /-- No connection came about. -/
  | connect (url : Option Url)
  /-- The time for the request ran out. -/
  | timeout (url : Url)
  /-- The connection ended without an answer. -/
  | closed (url : Url)
  /-- The body of an answer could not be read, perhaps because the time ran out. -/
  | body (late : Bool)
  /-- The request could not be put together. -/
  | builder (url : Option Url)
  /-- An answer was turned into an error because of its status. -/
  | status (code : Nat) (url : Url)
deriving DecidableEq, Repr

namespace TransportError

def url? : TransportError → Option Url
  | .connect url => url
  | .timeout url => some url
  | .closed url => some url
  | .body _ => none
  | .builder url => url
  | .status _ url => some url

def isTimeout : TransportError → Bool
  | .timeout _ => true
  | .body late => late
  | _ => false

def isConnect : TransportError → Bool
  | .connect _ => true
  | _ => false

def status? : TransportError → Option Nat
  | .status code _ => some code
  | _ => none

def summary : TransportError → String
  | .builder _ => "builder error"
  | .body _ => "error decoding response body"
  | .status code _ =>
    let side := if Status.isClientError code then "client" else "server"
    s!"HTTP status {side} error ({Status.describe code})"
  | _ => "error sending request"

def message (error : TransportError) : String :=
  match error.url? with
  | some url => s!"{error.summary} for url ({url.text})"
  | none => error.summary

end TransportError

inductive ApiError
  | transport (cause : TransportError)
  | invalidUrl (cause : UrlError)
  /-- The certificates to be trusted cannot be used. -/
  | tls (message : String)
  /-- The answer has no success status; `url` is the one that was asked for, as it was written. -/
  | status (code : Nat) (url : String)
  /-- The body is not what the endpoint serves. -/
  | undecodable (reason : String) (body : String)
deriving DecidableEq, Repr

namespace ApiError

def message : ApiError → String
  | .transport cause => s!"HTTP transport error: {cause.message}"
  | .invalidUrl cause => s!"Invalid URL: {cause.message}"
  | .tls message => s!"TLS error: {message}"
  | .status code url => s!"HTTP {code} from {url}"
  | .undecodable reason _ => s!"Deserialization error: {reason}"

def status? : ApiError → Option Nat
  | .transport cause => cause.status?
  | .status code _ => some code
  | _ => none

def worthRetrying : ApiError → Bool
  | .transport cause => cause.isTimeout || cause.isConnect
  | .status code _ => 500 ≤ code
  | _ => false

def isNotFound (error : ApiError) : Bool :=
  error.status? == some 404

end ApiError

end InterfaceSync
