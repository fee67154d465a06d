import InterfaceSync.Settings.Basic
import InterfaceSync.Settings.Layer

/-! The meaning of a layer of settings. Values are taken as they are: a text is never read as a
number, nor a number as a truth value. Keys are looked at in their order, unknown ones are passed
over, and the first value that does not fit is reported with the path to it. A table may be given as
a list of its fields. -/

namespace InterfaceSync

structure Unfit where
  cause : Mismatch
  path : List String
deriving DecidableEq, Repr

namespace Setting

abbrev Decoded (α : Type) := Except Unfit α

/-- What is wrong at a key is wrong at a longer path. -/
def under {α : Type} (key : String) : Decoded α → Decoded α
  | .ok value => .ok value
  | .error unfit => .error { unfit with path := key :: unfit.path }

def toText : Setting → Decoded String
  | .text value => .ok value
  | _ => .error ⟨.wrongType, []⟩

def toNat : Setting → Decoded Nat
  | .whole value => if value < 0 then .error ⟨.outOfRange, []⟩ else .ok value.toNat
  | _ => .error ⟨.wrongType, []⟩

def toBool : Setting → Decoded Bool
  | .truth value => .ok value
  | _ => .error ⟨.wrongType, []⟩

def field? {α : Type} (entries : List (String × Setting)) (key : String)
    (decode : Setting → Decoded α) : Decoded (Option α) :=
  match entries.lookup key with
  | none => .ok none
  | some value => under key (return some (← decode value))

def item? {α : Type} (items : List Setting) (index : Nat) (decode : Setting → Decoded α) :
    Decoded (Option α) :=
  match items[index]? with
  | none => .ok none
  | some value => under (toString index) (return some (← decode value))

def item {α : Type} (items : List Setting) (index : Nat) (decode : Setting → Decoded α) :
    Decoded α := do
  match ← item? items index decode with
  | some value => return value
  | none => throw ⟨.wrongLength, []⟩

def toDefaults : Setting → Decoded Defaults
  | .table entries => do
    let insecure ← field? entries "insecure" toBool
    let timeout ← field? entries "timeout" toNat
    return ⟨timeout.getD Defaults.standard.timeout, insecure.getD Defaults.standard.insecure⟩
  | .list items => do
    let timeout ← item? items 0 toNat
    let insecure ← item? items 1 toBool
    return ⟨timeout.getD Defaults.standard.timeout, insecure.getD Defaults.standard.insecure⟩
  | _ => .error ⟨.wrongType, []⟩

def toProfile : Setting → Decoded Profile
  | .table entries => do
    let apiBase ← field? entries "api_base" toText
    let caCert ← field? entries "ca_cert" toText
    let insecure ← field? entries "insecure" toBool
    let timeout ← field? entries "timeout" toNat
    match apiBase with
    | some apiBase => return { apiBase, timeout, caCert, insecure }
    | none => throw ⟨.missingField, []⟩
  | .list items => do
    let apiBase ← item items 0 toText
    let timeout ← item items 1 toNat
    let caCert ← item items 2 toText
    let insecure ← item items 3 toBool
    return ⟨apiBase, some timeout, some caCert, some insecure⟩
  | _ => .error ⟨.wrongType, []⟩

def toProfiles : Setting → Decoded (NameMap Profile)
  | .table entries => do
    let profiles ← entries.mapM fun (name, value) => under name do
      return (name, ← toProfile value)
    return .ofList profiles
  | _ => .error ⟨.wrongType, []⟩

/-- The settings that a table says, with the standard ones for what it leaves out. -/
def toSettings : Setting → Decoded Settings
  | .table entries => do
    let defaultProfile ← field? entries "default_profile" toText
    let defaults ← field? entries "defaults" toDefaults
    let profiles ← field? entries "profiles" toProfiles
    return ⟨defaultProfile, defaults.getD .standard, profiles.getD .empty⟩
  | _ => .error ⟨.wrongType, []⟩

end Setting

/-! Settings as a layer of their own -/

/-- The entries of those of some fields that are present. -/
def presentEntries (fields : List (String × Option Setting)) : List (String × Setting) :=
  sortEntries (fields.filterMap fun (key, value) => value.map (key, ·))

def Profile.toSetting (profile : Profile) : Setting :=
  .table <| presentEntries [
    ("api_base", some (.text profile.apiBase)), ("timeout", profile.timeout.map fun n => .whole n),
    ("ca_cert", profile.caCert.map .text), ("insecure", profile.insecure.map .truth)]

def Defaults.toSetting (defaults : Defaults) : Setting :=
  .table <| presentEntries [
    ("timeout", some (.whole defaults.timeout)), ("insecure", some (.truth defaults.insecure))]

def Settings.toSetting (settings : Settings) : Setting :=
  .table <| presentEntries [
    ("default_profile", settings.defaultProfile.map .text),
    ("defaults", some settings.defaults.toSetting),
    ("profiles", some (.table (settings.profiles.entries.map fun (name, profile) =>
      (name, profile.toSetting))))]

end InterfaceSync
