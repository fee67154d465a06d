import InterfaceSync.Model.InterfaceConfig
import InterfaceSync.Settings.Error
import InterfaceSync.Sync.Error

/-! Why a run of the program fails, as it is told to the user: a message, a code, what to try next,
and an exit status. -/

namespace InterfaceSync.Cli

inductive Failure
  | connectionFailed (url reason : String)
  | timeout
  | loadFailed (resource reason : String)
  | notFound (ifname : Ifname)
  | state (message : String)
  | invalid (field reason : String)
  | profileNotFound (name available : String)
  | settings (error : SettingsError)
  | file (error : FileError)
  | notJson (reason : String)
deriving DecidableEq, Repr

namespace Failure

def message : Failure → String
  | .connectionFailed url _ => s!"Could not reach the configuration API at {url}"
  | .timeout => "Request to the configuration API timed out"
  | .loadFailed resource reason => s!"Failed to load {resource}: {reason}"
  | .notFound ifname => s!"Interface '{ifname}' not found"
  | .state message => message
  | .invalid field reason => s!"Invalid value for {field}: {reason}"
  | .profileNotFound name _ => s!"Profile '{name}' not found in configuration"
  | .settings error => error.message
  | .file error => error.message
  | .notJson reason => s!"Invalid JSON payload: {reason}"

def code? : Failure → Option String
  | .connectionFailed _ _ => some "nicconf::connection_failed"
  | .timeout => some "nicconf::timeout"
  | .loadFailed _ _ => some "nicconf::load_failed"
  | .notFound _ => some "nicconf::not_found"
  | .state _ => some "nicconf::state"
  | .invalid _ _ => some "nicconf::validation"
  | .profileNotFound _ _ => some "nicconf::profile_not_found"
  | .settings _ => some "nicconf::config"
  | .file _ => none
  | .notJson _ => some "nicconf::json"

def help? : Failure → Option String
  | .connectionFailed _ reason =>
    some ("Check that the API server is running and reachable.\n" ++ reason ++
      "\nTry: nicconf --api-base http://localhost:8000/api list")
  | .timeout => some "Increase timeout with --timeout or check server responsiveness."
  | .loadFailed _ _ =>
    some ("Nothing was loaded. Check the API base of the active profile: nicconf config show")
  | .notFound _ => some "Run: nicconf list to see available interfaces"
  | .profileNotFound _ available =>
    some ("Available profiles: " ++ available ++ "\nCreate one with: nicconf config init")
  | .notJson _ =>
    some ("Pass a complete JSON configuration, e.g. '\x7b\"dhcp\": true\x7d', or @file.json")
  | _ => none

def exitCode : Failure → Nat
  | .connectionFailed _ _ => 7
  | .loadFailed _ _ => 7
  | .timeout => 8
  | .notFound _ => 4
  | .invalid _ _ => 2
  | .notJson _ => 2
  | .profileNotFound _ _ => 2
  | _ => 1

def ofSettings : SettingsError → Failure
  | .unknownProfile name available => .profileNotFound name available
  | .invalid field reason => .invalid field reason
  | .file error => .file error
  | error => .settings error

/-- The cause of a failed load is told instead of the load where it is about the connection. Only
one wrapper is opened. -/
def ofSync : SyncError → Failure
  | .connectionFailed url reason => .connectionFailed url reason
  | .timeout => .timeout
  | .loadFailed _ (.connectionFailed url reason) => .connectionFailed url reason
  | .loadFailed _ .timeout => .timeout
  | .loadFailed resource source => .loadFailed resource source.message
  | .config message => .invalid "config" message
  | error => .state error.message

end Failure

end InterfaceSync.Cli
