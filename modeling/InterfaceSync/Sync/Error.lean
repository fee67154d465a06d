import InterfaceSync.Wire.Failure

/-! What can go wrong for a user of a store. Failures of the API are restated without HTTP terms,
and a failed load names the resource in front of the cause. -/

namespace InterfaceSync

inductive SyncError
  | connectionFailed (url reason : String)
  | timeout
  | loadFailed (resource : String) (source : SyncError)
  | loadInProgress
  | loadCancelled
  | notReady
  | noSelection
  | staleTarget (expected current : String)
  | api (message : String) (status : Option Nat)
  | config (message : String)
  | internal (message : String)
deriving DecidableEq, Repr

namespace SyncError

def message : SyncError → String
  | .connectionFailed url reason => s!"Cannot reach configuration API at {url}: {reason}"
  | .timeout => "Configuration API request timed out"
  | .loadFailed resource source => s!"Failed to load {resource}: " ++ source.message
  | .loadInProgress => "A configuration load is already in progress"
  | .loadCancelled => "Configuration load was cancelled before it finished"
  | .notReady => "Configuration has not been loaded yet"
  | .noSelection => "No interface is selected"
  | .staleTarget expected current =>
    s!"Edit was made for '{expected}' but '{current}' is now selected"
  | .api message _ => s!"API error: {message}"
  | .config message => s!"Configuration error: {message}"
  | .internal message => s!"Internal error: {message}"

/-- The error inside all the wrappers of failed loads. -/
def root : SyncError → SyncError
  | .loadFailed _ source => source.root
  | error => error

/-- The HTTP status of the answer behind an error, looking through failed loads. -/
def status? (error : SyncError) : Option Nat :=
  match error.root with
  | .api _ status => status
  | _ => none

/-- A failed request that ran out of time or did not connect is told apart from all others. -/
def ofTransport (cause : TransportError) : SyncError :=
  if cause.isTimeout then .timeout
  else if cause.isConnect then
    .connectionFailed ((cause.url?.map Url.text).getD "<unknown>") cause.message
  else .api cause.message cause.status?

def ofApi : ApiError → SyncError
  | .transport cause => ofTransport cause
  | .invalidUrl cause => .config s!"Invalid URL: {cause.message}"
  | .tls message => .connectionFailed "" s!"TLS error: {message}"
  | .status code url => .api s!"HTTP {code} from {url}" (some code)
  | .undecodable reason _ => .internal s!"Deserialization error: {reason}"

end SyncError

end InterfaceSync
