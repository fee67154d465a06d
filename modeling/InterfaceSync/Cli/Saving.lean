import InterfaceSync.Cli.Machine
import InterfaceSync.Settings.Load
import InterfaceSync.Toml.Writer

/-! Settings in a file of their own. They are saved as a whole, and loaded without the built-in ones
and without the environment. -/

namespace InterfaceSync.Cli.Machine

/-- Writes settings to a file. Missing directories around it are made first, even if a number turns
out to be too large for a file. -/
def saveSettings (machine : Machine) (path : String) (settings : Settings) :
    Except SettingsError Unit × Machine :=
  match machine.prepare path with
  | (.error error, prepared) => (.error (.file error), prepared)
  | (.ok (), prepared) =>
    match Toml.write settings with
    | .error error => (.error error, prepared)
    | .ok text =>
      match prepared.overwrite path text with
      | .error error => (.error (.file error), prepared)
      | .ok after => (.ok (), after)

/-- The settings that a file gives by itself. A file that cannot be read is no text of settings. -/
def loadSettingsFile (machine : Machine) (path : String) : Except SettingsError Settings :=
  match ((machine.host []).readOptional path).run machine with
  | (.error _, _) => .error (.unfit .malformed [])
  | (.ok content, _) => Settings.loadFile content

end InterfaceSync.Cli.Machine
