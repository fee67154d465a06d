import InterfaceSync.Model.InterfaceConfig
import InterfaceSync.Sync.Error

/-! The log. Every event has a level and a line of text; nothing else depends on it. -/

namespace InterfaceSync

inductive Level
  | trace
  | debug
  | info
  | warn
deriving DecidableEq, Repr

def Level.name : Level → String
  | .trace => "TRACE"
  | .debug => "DEBUG"
  | .info => "INFO"
  | .warn => "WARN"

/-- How much has to be asked for until events of a level are shown. -/
def Level.verbosity : Level → Nat
  | .warn => 0
  | .info => 1
  | .debug => 2
  | .trace => 3

inductive Event
  | connected (base : Url)
  | requested (url : Url)
  | repeatedName (ifname : Ifname)
  | nullEntry (ifname : Ifname)
  | fetched (ifnames configured : Nat)
  | loaded (ifnames configured : Nat)
  | lateResult
  | loadFailed (error : SyncError)
  | selected (ifname : Ifname)
  | editUnchanged (ifname : Ifname)
  | editUnreported (ifname : Ifname)
  | editApplied (ifname : Ifname)
deriving DecidableEq, Repr

namespace Event

def level : Event → Level
  | .connected _ => .info
  | .requested _ => .debug
  | .repeatedName _ => .warn
  | .nullEntry _ => .debug
  | .fetched _ _ => .debug
  | .loaded _ _ => .info
  | .lateResult => .debug
  | .loadFailed _ => .warn
  | .selected _ => .trace
  | .editUnchanged _ => .debug
  | .editUnreported _ => .warn
  | .editApplied _ => .debug

/-- What is logged: a message, then its fields as `key=value`. -/
def text : Event → String
  | .connected base => s!"using configuration API api_base={base.text}"
  | .requested url => s!"GET {url.text}"
  | .repeatedName ifname => s!"duplicate interface name in /ifnames, keeping first ifname={ifname}"
  | .nullEntry ifname => s!"dropping null configuration entry ifname={ifname}"
  | .fetched ifnames configured =>
    s!"configuration fetched ifnames={ifnames} configured={configured}"
  | .loaded ifnames configured =>
    s!"configuration loaded ifnames={ifnames} configured={configured}"
  | .lateResult => "store already ready, discarding late load result"
  | .loadFailed error => s!"configuration load failed error={error.message}"
  | .selected ifname => s!"select ifname={ifname}"
  | .editUnchanged ifname => s!"edit matches stored configuration ifname={ifname}"
  | .editUnreported ifname =>
    s!"storing configuration for an interface the host did not report ifname={ifname}"
  | .editApplied ifname => s!"applying edit ifname={ifname}"

/-- Whether a store holds a new document from this event on. -/
def changesDocument : Event → Bool
  | .loaded _ _ => true
  | .editApplied _ => true
  | _ => false

def line (event : Event) : String :=
  s!"{event.level.name} {event.text}"

end Event

end InterfaceSync
