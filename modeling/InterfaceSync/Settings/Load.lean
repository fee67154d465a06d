import InterfaceSync.Settings.Decode
import InterfaceSync.Settings.Environment
import InterfaceSync.Toml.Reader

/-! Loading settings. The built-in ones are the lowest layer, then comes the file, then the
environment. What is to be written back is read from the file alone. -/

namespace InterfaceSync.Settings

/-- The layer of a file; a missing file says nothing. -/
def fileLayer (content : Option String) : Except SettingsError Setting :=
  match content with
  | none => .ok (.table [])
  | some text =>
    match Toml.parse? text with
    | some layer => .ok layer
    | none => .error (.unfit .malformed [])

def decode (layer : Setting) : Except SettingsError Settings :=
  layer.toSettings.mapError fun unfit => .unfit unfit.cause unfit.path

def load (content : Option String) (environment : List (String × String)) :
    Except SettingsError Settings := do
  let file ← fileLayer content
  decode ((builtin.toSetting.merge file).merge (Environment.layer environment))

def loadFile (content : Option String) : Except SettingsError Settings := do
  decode (← fileLayer content)

end InterfaceSync.Settings
