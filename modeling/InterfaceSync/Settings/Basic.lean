import InterfaceSync.NameMap
import InterfaceSync.Settings.Error
import InterfaceSync.Url.Parser
import InterfaceSync.Wire.Trust

/-! Settings: profiles that say where the API of a deployment is, and defaults for what a profile
leaves open. -/

namespace InterfaceSync

structure Profile where
  apiBase : String
  timeout : Option Nat
  caCert : Option String
  insecure : Option Bool
deriving DecidableEq, Repr

/-- A profile that leaves everything but the base open. -/
def Profile.ofBase (apiBase : String) : Profile :=
  ⟨apiBase, none, none, none⟩

structure Defaults where
  /-- In seconds. -/
  timeout : Nat
  insecure : Bool
deriving DecidableEq, Repr

def Defaults.standard : Defaults := ⟨30, false⟩

structure Settings where
  defaultProfile : Option String
  defaults : Defaults
  profiles : NameMap Profile

namespace Settings

/-- The profile that is used when nothing else is chosen. -/
def fallbackProfile : String := "development"

def empty : Settings := ⟨none, .standard, .empty⟩

def builtin : Settings where
  defaultProfile := some fallbackProfile
  defaults := .standard
  profiles := .ofList [
    ("development", .ofBase "http://localhost:8000/api"),
    ("production", .ofBase "http://localhost/api")]

/-- The name of the profile to use: the one that is asked for, else the default one. -/
def activeProfile (settings : Settings) (requested : Option String) : String :=
  (requested <|> settings.defaultProfile).getD fallbackProfile

def profile (settings : Settings) (name : String) : Except SettingsError Profile :=
  match settings.profiles.get? name with
  | some profile => .ok profile
  | none => .error (.unknownProfile name (", ".intercalate settings.profiles.names))

def withProfile (settings : Settings) (name : String) (profile : Profile) : Settings :=
  { settings with profiles := settings.profiles.insert name profile }

end Settings

def readApiBase (raw : String) : Except SettingsError Url :=
  match Url.parse raw with
  | .error cause => .error (.invalid "api_base" s!"invalid URL '{raw}': {cause.message}")
  | .ok url =>
    if Client.isHttp url then .ok url
    else
      let scheme := String.ofList url.scheme
      .error (.invalid "api_base" s!"unsupported scheme '{scheme}', expected http or https")

/-- How the API of a profile is reached. Where any certificate is accepted, a file of certificates
does not matter. -/
def Profile.clientSettings (profile : Profile) (defaults : Defaults) :
    Except SettingsError ClientSettings := do
  let apiBase ← readApiBase profile.apiBase
  let trust : TlsTrust :=
    if profile.insecure.getD defaults.insecure then .anyCertificate
    else
      match profile.caCert with
      | some path => .customCa path
      | none => .system
  return { apiBase, trust, timeout := profile.timeout.getD defaults.timeout }

end InterfaceSync
