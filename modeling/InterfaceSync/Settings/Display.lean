import InterfaceSync.Json.Value
import InterfaceSync.Settings.Basic

/-! Settings as they are shown: as a value with all keys in the order of their declaration, and as
lines that look like the file. -/

namespace InterfaceSync

namespace Json

/-- A number of at most 64 bits; larger ones are shown as nothing. -/
def ofNat (value : Nat) : Json :=
  if fits : Whole value then .number (.whole value fits) else .null

def ofOption {α : Type} (toJson : α → Json) : Option α → Json
  | some value => toJson value
  | none => .null

end Json

def Profile.toJson (profile : Profile) : Json :=
  .object [
    ("api_base", .string profile.apiBase), ("timeout", .ofOption .ofNat profile.timeout),
    ("ca_cert", .ofOption .string profile.caCert), ("insecure", .ofOption .bool profile.insecure)]

def Defaults.toJson (defaults : Defaults) : Json :=
  .object [("timeout", .ofNat defaults.timeout), ("insecure", .bool defaults.insecure)]

namespace Settings

def toJson (settings : Settings) : Json :=
  .object [
    ("default_profile", .ofOption .string settings.defaultProfile),
    ("defaults", settings.defaults.toJson),
    ("profiles", .object (settings.profiles.entries.map fun (name, profile) =>
      (name, profile.toJson)))]

end Settings

end InterfaceSync
