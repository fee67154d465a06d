import InterfaceSync.Settings.Decode
import InterfaceSync.Toml.Quoted

/-! Settings as a TOML file: values in front of tables, a header for every table, and a blank line
in front of each header that is not the first line. -/

namespace InterfaceSync.Toml

def assignmentLine (key : String) (value : List Char) : List Char :=
  writeKey key.toList ++ " = ".toList ++ value ++ ['\n']

def optionalLine {α : Type} (key : String) (write : α → List Char) : Option α → List Char
  | some value => assignmentLine key (write value)
  | none => []

def writeBool (value : Bool) : List Char :=
  if value then "true".toList else "false".toList

def writeNat (value : Nat) : List Char :=
  Nat.toDigits 10 value

def headerLine (path : List String) : List Char :=
  '[' :: ['.'].intercalate (path.map fun key => writeKey key.toList) ++ [']', '\n']

def writeString (value : String) : List Char :=
  writeText value.toList

def writeDefaults (defaults : Defaults) : List Char :=
  headerLine ["defaults"] ++ assignmentLine "timeout" (writeNat defaults.timeout) ++
    assignmentLine "insecure" (writeBool defaults.insecure)

def writeProfile (name : String) (profile : Profile) : List Char :=
  headerLine ["profiles", name] ++ assignmentLine "api_base" (writeString profile.apiBase) ++
    optionalLine "timeout" writeNat profile.timeout ++
    optionalLine "ca_cert" writeString profile.caCert ++
    optionalLine "insecure" writeBool profile.insecure

/-- The tables of the profiles; an empty one if there are none. -/
def writeProfiles (profiles : NameMap Profile) : List Char :=
  if profiles.isEmpty then '\n' :: headerLine ["profiles"]
  else profiles.entries.flatMap fun (name, profile) => '\n' :: writeProfile name profile

def writeSettings (settings : Settings) : List Char :=
  let first := optionalLine "default_profile" writeString settings.defaultProfile
  first ++ (if first.isEmpty then [] else ['\n']) ++ writeDefaults settings.defaults ++
    writeProfiles settings.profiles

/-- The largest number that a file can hold. -/
def maxWhole : Nat := 9223372036854775807

def isWritable (settings : Settings) : Bool :=
  settings.defaults.timeout ≤ maxWhole &&
    settings.profiles.entries.all fun (_, profile) => profile.timeout.all (· ≤ maxWhole)

def write (settings : Settings) : Except SettingsError String :=
  if isWritable settings then .ok (.ofList (writeSettings settings)) else .error .unwritable

end InterfaceSync.Toml
